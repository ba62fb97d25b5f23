/- Non-negative binary64 numbers with rounding to nearest, ties to even. -/
namespace Issuance

/-- The nearest whole number to a quotient, where a tie goes to the even one. -/
def roundQuotient (numerator denominator : Nat) : Nat :=
  let quotient := numerator / denominator
  let remainder := numerator % denominator
  if 2 * remainder > denominator ∨ (2 * remainder = denominator ∧ quotient % 2 = 1) then
    quotient + 1
  else quotient

/-- A finite number counts quanta, and the quantum is the least positive number, 2^-1074. -/
inductive Binary64 where
  | finite (quanta : Nat)
  | infinite
  deriving DecidableEq, Repr

namespace Binary64

/-- One is 2^1074 quanta. -/
def quantaPerUnit : Nat := 1 <<< 1074

/-- Finite numbers stay below 2^1024. -/
def quantaLimit : Nat := 1 <<< 2098

/-- The binary64 number nearest to a quotient of quanta, with a significand of 53 bits. -/
def nearest (numerator denominator : Nat) : Binary64 :=
  let step := 1 <<< (Nat.log2 (numerator / denominator) - 52)
  let quanta := roundQuotient numerator (denominator * step) * step
  if quanta < quantaLimit then finite quanta else infinite

/-- The number nearest to a decimal fraction with the given count of decimal places. -/
def ofDecimal (digits places : Nat) : Binary64 :=
  nearest (digits * quantaPerUnit) (Nat.pow 10 places)

def add : Binary64 → Binary64 → Binary64
  | finite left, finite right => nearest (left + right) 1
  | _, _ => infinite

def scale (factor : Nat) : Binary64 → Binary64
  | finite quanta => nearest (quanta * factor) 1
  | infinite => infinite

def divide (divisor : Nat) : Binary64 → Binary64
  | finite quanta => nearest quanta divisor
  | infinite => infinite

def zero : Binary64 := finite 0

/-- A count of billionths, rounded to the nearest whole number. -/
def billionths : Binary64 → Option Nat
  | finite quanta => some (roundQuotient (quanta * 1000000000) quantaPerUnit)
  | infinite => none

end Binary64

end Issuance
