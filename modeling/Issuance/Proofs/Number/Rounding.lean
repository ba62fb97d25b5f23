import Mathlib.Algebra.Group.Nat.Defs
import Issuance.Number.Binary64

namespace Issuance

/-- Rounding goes down at most to the whole part of a quotient. -/
theorem div_le_roundQuotient (numerator denominator : Nat) :
    numerator / denominator ≤ roundQuotient numerator denominator := by
  unfold roundQuotient
  dsimp only
  split
  · exact Nat.le_succ _
  · exact Nat.le_refl _

/-- What is rounded to zero is at most one half, since a tie goes to the even number. -/
theorem roundQuotient_pos_iff {numerator denominator : Nat} (positive : 0 < denominator) :
    0 < roundQuotient numerator denominator ↔ denominator < 2 * numerator := by
  have least := div_le_roundQuotient numerator denominator
  by_cases below : numerator < denominator
  · have none : numerator / denominator = 0 := Nat.div_eq_of_lt below
    have all : numerator % denominator = numerator := Nat.mod_eq_of_lt below
    rw [roundQuotient, none, all]
    split <;> omega
  · have some : 0 < numerator / denominator := Nat.div_pos (Nat.le_of_not_lt below) positive
    omega

namespace Binary64

/-- A significand of at most 53 bits, or the power of two after them, makes up the quanta. -/
def IsShort (quanta : Nat) : Prop :=
  ∃ significand exponent, significand ≤ 2 ^ 53 ∧ quanta = significand * 2 ^ exponent

/-- The number has at least so many quanta. -/
def AtLeast (quanta : Nat) : Binary64 → Prop
  | finite own => quanta ≤ own
  | infinite => True

variable {quanta numerator denominator factor divisor : Nat} {left right number : Binary64}

/-- Against each place of the last bit, a short number is a multiple of it or does not need it. -/
theorem IsShort.dvd_or_le (short : IsShort quanta) (place : Nat) :
    2 ^ place ∣ quanta ∨ 0 < place ∧ quanta ≤ 2 ^ (52 + place) := by
  obtain ⟨significand, exponent, bounded, rfl⟩ := short
  by_cases coarse : place ≤ exponent
  · exact .inl (Nat.dvd_mul_left_of_dvd (Nat.pow_dvd_pow 2 coarse) significand)
  · refine .inr ⟨by omega, ?_⟩
    calc significand * 2 ^ exponent ≤ 2 ^ 53 * 2 ^ exponent := Nat.mul_le_mul_right _ bounded
      _ = 2 ^ (53 + exponent) := (Nat.pow_add 2 53 exponent).symm
      _ ≤ 2 ^ (52 + place) := Nat.pow_le_pow_right Nat.two_pos (by omega)

/-- The nearest number is no less than a short one below the quotient. -/
theorem atLeast_nearest (short : IsShort quanta) (positive : 0 < denominator)
    (below : quanta * denominator ≤ numerator) :
    AtLeast quanta (nearest numerator denominator) := by
  have whole : quanta ≤ numerator / denominator := (Nat.le_div_iff_mul_le positive).mpr below
  unfold nearest
  dsimp only
  rw [Nat.one_shiftLeft]
  generalize placed : Nat.log2 (numerator / denominator) - 52 = place
  split
  · change quanta ≤ roundQuotient numerator (denominator * 2 ^ place) * 2 ^ place
    have least := div_le_roundQuotient numerator (denominator * 2 ^ place)
    rw [← Nat.div_div_eq_div_mul] at least
    obtain ⟨count, rfl⟩ | ⟨coarse, small⟩ := short.dvd_or_le place
    · have counted : count ≤ numerator / denominator / 2 ^ place := by
        rw [Nat.le_div_iff_mul_le (Nat.two_pow_pos place), Nat.mul_comm]
        exact whole
      rw [Nat.mul_comm]
      exact Nat.mul_le_mul_right _ (Nat.le_trans counted least)
    · have filled : numerator / denominator ≠ 0 := by
        intro none
        rw [none] at placed
        simp at placed
        omega
      have counted : 2 ^ 52 ≤ numerator / denominator / 2 ^ place := by
        rw [Nat.le_div_iff_mul_le (Nat.two_pow_pos place), ← Nat.pow_add]
        calc 2 ^ (52 + place) = 2 ^ Nat.log2 (numerator / denominator) := by congr 1; omega
          _ ≤ numerator / denominator := Nat.log2_self_le filled
      calc quanta ≤ 2 ^ 52 * 2 ^ place := by rwa [← Nat.pow_add]
        _ ≤ _ := Nat.mul_le_mul_right _ (Nat.le_trans counted least)
  · trivial

theorem AtLeast.mono {lower : Nat} (least : AtLeast quanta number) (below : lower ≤ quanta) :
    AtLeast lower number := by
  cases number with
  | infinite => trivial
  | finite own => exact Nat.le_trans below least

/-- A sum is no less than a short number below one of its parts. -/
theorem atLeast_add (short : IsShort quanta) (part : AtLeast quanta left ∨ AtLeast quanta right) :
    AtLeast quanta (left.add right) := by
  cases left with
  | infinite => trivial
  | finite own =>
    cases right with
    | infinite => trivial
    | finite other =>
      refine atLeast_nearest short Nat.one_pos ?_
      rcases part with part | part
      · have least : quanta ≤ own := part
        omega
      · have least : quanta ≤ other := part
        omega

theorem AtLeast.scale {result : Nat} (least : AtLeast quanta number) (short : IsShort result)
    (below : result ≤ quanta * factor) : AtLeast result (number.scale factor) := by
  cases number with
  | infinite => trivial
  | finite own =>
    refine atLeast_nearest short Nat.one_pos ?_
    rw [Nat.mul_one]
    exact Nat.le_trans below (Nat.mul_le_mul_right factor least)

theorem AtLeast.divide {result : Nat} (least : AtLeast quanta number) (short : IsShort result)
    (positive : 0 < divisor) (below : result * divisor ≤ quanta) :
    AtLeast result (number.divide divisor) := by
  cases number with
  | infinite => trivial
  | finite own => exact atLeast_nearest short positive (Nat.le_trans below least)

/-- A decimal fraction is no less than a short number below it. -/
theorem atLeast_ofDecimal {digits places : Nat} (short : IsShort quanta)
    (below : quanta * 10 ^ places ≤ digits * quantaPerUnit) :
    AtLeast quanta (ofDecimal digits places) :=
  atLeast_nearest short (Nat.pow_pos (by decide)) below

end Binary64

end Issuance
