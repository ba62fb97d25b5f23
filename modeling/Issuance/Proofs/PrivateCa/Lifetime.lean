import Issuance.Proofs.Number.Rounding
import Issuance.Proofs.PrivateCa.Ordering
import Issuance.Proofs.Time.DurationParts

/- Which lifetimes a duration text can stand for. The sum of its parts is checked before it is
rounded to nanoseconds, so a sum of at most half a nanosecond is accepted as no time at all. -/
namespace Issuance

namespace DurationText

/-- The nanoseconds of a unit. -/
def Scale.nanoseconds : Scale → Nat
  | hours => 3600000000000
  | minutes => 60000000000
  | seconds => 1000000000
  | milliseconds => 1000000

/-- The decimal number of a part makes up a nanosecond or more in its unit. -/
def Part.LastsNanosecond (part : Part) : Prop :=
  10 ^ (part.fraction.getD []).length ≤
    Text.digitsValue (part.whole ++ part.fraction.getD []) * part.scale.nanoseconds

/-- Less than a nanosecond and more than half of one, in quanta. -/
def shortOfNanosecond : Nat := 3 * 2 ^ 1042

/-- A number of this unit reaches two to this power of quanta when it makes up a nanosecond. -/
def Scale.leastExponent : Scale → Nat
  | hours => 1032
  | minutes => 1038
  | seconds => 1044
  | milliseconds => 1054

variable {part : Part} {parts : List Part} {quanta : Nat} {total sum seconds number : Binary64}
  {scale : Scale}

open Binary64 (AtLeast IsShort)

theorem isShort_shortOfNanosecond : IsShort shortOfNanosecond := ⟨3, 1042, by decide, rfl⟩

theorem isShort_two_pow (exponent : Nat) : IsShort (2 ^ exponent) :=
  ⟨1, exponent, Nat.one_le_two_pow, (Nat.one_mul _).symm⟩

theorem two_pow_leastExponent_le (scale : Scale) :
    2 ^ scale.leastExponent * scale.nanoseconds ≤ Binary64.quantaPerUnit := by
  rw [Binary64.quantaPerUnit, Nat.one_shiftLeft]
  cases scale <;> simp only [Scale.leastExponent, Scale.nanoseconds] <;> omega

/-- A number that makes up a nanosecond stays above half of one when it is taken in seconds. -/
theorem atLeast_toSeconds (least : AtLeast (2 ^ scale.leastExponent) number) :
    AtLeast shortOfNanosecond (scale.toSeconds number) := by
  unfold shortOfNanosecond
  cases scale with
  | hours =>
    simp only [Scale.leastExponent] at least
    exact least.scale isShort_shortOfNanosecond (by omega)
  | minutes =>
    simp only [Scale.leastExponent] at least
    exact least.scale isShort_shortOfNanosecond (by omega)
  | seconds =>
    simp only [Scale.leastExponent] at least
    exact least.mono (by omega)
  | milliseconds =>
    simp only [Scale.leastExponent] at least
    exact least.divide isShort_shortOfNanosecond (by decide) (by omega)

theorem Part.LastsNanosecond.atLeast (lasts : part.LastsNanosecond)
    (counted : part.seconds? = some seconds) : AtLeast shortOfNanosecond seconds := by
  obtain ⟨number, found, rfl⟩ := Option.map_eq_some_iff.mp counted
  apply atLeast_toSeconds
  unfold number? at found
  dsimp only at found
  split at found
  · cases found
    apply Binary64.atLeast_ofDecimal (isShort_two_pow _)
    calc 2 ^ part.scale.leastExponent * 10 ^ (part.fraction.getD []).length
        ≤ 2 ^ part.scale.leastExponent * (Text.digitsValue (part.whole ++ part.fraction.getD []) *
            part.scale.nanoseconds) := Nat.mul_le_mul_left _ lasts
      _ = Text.digitsValue (part.whole ++ part.fraction.getD []) *
            (2 ^ part.scale.leastExponent * part.scale.nanoseconds) := Nat.mul_left_comm _ _ _
      _ ≤ _ := Nat.mul_le_mul_left _ (two_pow_leastExponent_le part.scale)
  · cases found

/-- A sum is no less than a short number that one of its parts or its beginning has reached. -/
theorem atLeast_sumFrom (short : IsShort quanta) (summed : sumFrom total parts = some sum)
    (reached : AtLeast quanta total ∨
      ∃ part ∈ parts, ∀ seconds, part.seconds? = some seconds → AtLeast quanta seconds) :
    AtLeast quanta sum := by
  induction parts generalizing total with
  | nil =>
    cases summed
    exact reached.resolve_right (by simp)
  | cons part parts ih =>
    rw [sumFrom] at summed
    split at summed
    · cases summed
    · next seconds counted =>
      apply ih summed
      rcases reached with begun | ⟨last, member, worth⟩
      · exact .inl (Binary64.atLeast_add short (.inl begun))
      · rcases List.mem_cons.mp member with rfl | later
        · exact .inl (Binary64.atLeast_add short (.inr (worth seconds counted)))
        · exact .inr ⟨last, later, worth⟩

theorem half_lt_of_atLeast (least : AtLeast shortOfNanosecond (.finite quanta)) :
    Binary64.quantaPerUnit < 2 * (quanta * 1000000000) := by
  calc Binary64.quantaPerUnit < 2 * (shortOfNanosecond * 1000000000) := by
        rw [Binary64.quantaPerUnit, Nat.one_shiftLeft, shortOfNanosecond]
        omega
    _ ≤ 2 * (quanta * 1000000000) := Nat.mul_le_mul_left 2 (Nat.mul_le_mul_right _ least)

/-- An accepted duration is a sum above zero, rounded to nanoseconds. -/
theorem exists_sum_of_parse {source : String} {span : Span} (parsed : parse source = .ok span) :
    ∃ parts quanta, (Text.trim source).toList = parts.flatMap Part.letters ∧
      sumFrom .zero parts = some (.finite quanta) ∧ 0 < quanta ∧
      span.nanoseconds = roundQuotient (quanta * 1000000000) Binary64.quantaPerUnit := by
  obtain ⟨parts, total, _, _, same, summed, spanned⟩ := exists_parts_of_parse parsed
  obtain ⟨other, rounded, positive, billionths⟩ | ⟨refused, _⟩ | ⟨refused, _⟩ :=
    spanOf_cases (Text.trim source) total
  · cases spanned.symm.trans rounded
    cases total with
    | infinite => cases billionths
    | finite quanta =>
      refine ⟨parts, quanta, same, summed, Nat.pos_of_ne_zero fun none => ?_,
        (Option.some.inj billionths).symm⟩
      exact positive (congrArg Binary64.finite none)
  · cases spanned.symm.trans refused
  · cases spanned.symm.trans refused

end DurationText

namespace PrivateCa

open DurationText (Part Scale parse sumFrom)

/-- A duration is accepted for a sum above zero. It lasts some time when the sum exceeds half a
nanosecond, and the sum does so when one of its parts makes up a nanosecond. -/
theorem accepted_duration_lasts {source : String} {lifetime : Span}
    (accepted : parse source = .ok lifetime) :
    requestedLifetime (some source) = .ok lifetime ∧
    ∃ parts quanta, (Text.trim source).toList = parts.flatMap Part.letters ∧
      sumFrom .zero parts = some (.finite quanta) ∧ 0 < quanta ∧
      (0 < lifetime.nanoseconds ↔ Binary64.quantaPerUnit < 2 * (quanta * 1000000000)) ∧
      ((∃ part ∈ parts, part.LastsNanosecond) → 0 < lifetime.nanoseconds) := by
  have named : source ≠ "" := by
    rintro rfl
    have refused : parse "" = .error .empty := by decide
    cases accepted.symm.trans refused
  refine ⟨requestedLifetime_eq_ok_iff.mpr (.given named accepted), ?_⟩
  obtain ⟨parts, quanta, same, summed, positive, rounded⟩ :=
    DurationText.exists_sum_of_parse accepted
  have lasts : 0 < lifetime.nanoseconds ↔ Binary64.quantaPerUnit < 2 * (quanta * 1000000000) := by
    rw [rounded]
    exact roundQuotient_pos_iff (by decide +kernel)
  refine ⟨parts, quanta, same, summed, positive, lasts, fun ⟨part, member, long⟩ => ?_⟩
  apply lasts.mpr
  apply DurationText.half_lt_of_atLeast
  exact DurationText.atLeast_sumFrom DurationText.isShort_shortOfNanosecond summed
    (.inr ⟨part, member, fun _ => long.atLeast⟩)

namespace Sample

def nanosecond : Part := ⟨['0'], some ['0', '0', '0', '0', '0', '1'], .milliseconds⟩

def fraction : Part :=
  ⟨['0'], some ['0', '0', '0', '0', '0', '0', '0', '0', '0', '1'], .seconds⟩

theorem parse_nanosecond : parse "0.000001ms" = .ok ⟨1, by decide⟩ := by
  have written : ∀ part ∈ [nanosecond], part.IsWritten Text.isDecimalDigit := by decide
  have same : (Text.trim "0.000001ms").toList = [nanosecond].flatMap Part.letters := by decide
  rw [DurationText.parse_of_parts (List.cons_ne_nil _ _) written same]
  decide +kernel

theorem parse_fraction : parse "0.0000000001s" = .ok .zero := by
  have written : ∀ part ∈ [fraction], part.IsWritten Text.isDecimalDigit := by decide
  have same : (Text.trim "0.0000000001s").toList = [fraction].flatMap Part.letters := by decide
  rw [DurationText.parse_of_parts (List.cons_ne_nil _ _) written same]
  decide +kernel

end Sample

/-- A nanosecond is the shortest lifetime that a part is sure to give. -/
theorem sample_nanosecond_lasts : parse "0.000001ms" = .ok ⟨1, by decide⟩ ∧
    requestedLifetime (some "0.000001ms") = .ok ⟨1, by decide⟩ ∧
    ∃ parts quanta, (Text.trim "0.000001ms").toList = parts.flatMap Part.letters ∧
      sumFrom .zero parts = some (.finite quanta) ∧
      Binary64.quantaPerUnit < 2 * (quanta * 1000000000) := by
  obtain ⟨requested, parts, quanta, same, summed, _, lasts, _⟩ :=
    accepted_duration_lasts Sample.parse_nanosecond
  exact ⟨Sample.parse_nanosecond, requested, parts, quanta, same, summed, lasts.mp Nat.one_pos⟩

/-- A tenth of a nanosecond is accepted as a duration and requested as a lifetime, and it is no time
at all. -/
theorem empty_duration_accepted :
    parse "0.0000000001s" = .ok .zero ∧ requestedLifetime (some "0.0000000001s") = .ok .zero ∧
    ¬∀ source lifetime, parse source = .ok lifetime → 0 < lifetime.nanoseconds := by
  refine ⟨Sample.parse_fraction, ?_, fun lasts => ?_⟩
  · exact requestedLifetime_eq_ok_iff.mpr (.given (by decide) Sample.parse_fraction)
  · exact absurd (lasts _ _ Sample.parse_fraction) (Nat.lt_irrefl 0)

end PrivateCa

end Issuance
