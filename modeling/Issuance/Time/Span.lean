namespace Issuance

def nanosPerSecond : Nat := 1000000000

/-- A span counts nanoseconds, and its whole seconds fit into 64 bits. -/
structure Span where
  nanoseconds : Nat
  bounded : nanoseconds < UInt64.size * nanosPerSecond
  deriving DecidableEq, Repr

namespace Span

def zero : Span := ⟨0, by decide⟩

instance : Inhabited Span := ⟨zero⟩

def ofSeconds (seconds : UInt64) : Span :=
  ⟨seconds.toNat * nanosPerSecond,
    Nat.mul_lt_mul_of_pos_right seconds.toNat_lt (by decide)⟩

def ofMilliseconds (milliseconds : UInt64) : Span :=
  ⟨milliseconds.toNat * 1000000, by
    have bounded := milliseconds.toNat_lt
    simp only [nanosPerSecond, UInt64.size]
    omega⟩

/-- Nanoseconds, when they fit. -/
def ofNanoseconds? (nanoseconds : Nat) : Option Span :=
  if bounded : nanoseconds < UInt64.size * nanosPerSecond then some ⟨nanoseconds, bounded⟩ else none

def seconds (span : Span) : Nat := span.nanoseconds / nanosPerSecond

/-- The nanoseconds after the whole seconds. -/
def subsecond (span : Span) : Nat := span.nanoseconds % nanosPerSecond

def isZero (span : Span) : Bool := span.nanoseconds == 0

end Span

end Issuance
