import Mathlib.Algebra.Group.Nat.Defs
import Mathlib.Algebra.Ring.Int.Defs
import Issuance.PrivateCa.Order
import Issuance.Time.Moment

namespace Issuance

section Words

/-- The word of the same number with a sign, or the greatest of these words. -/
def clampToSigned (word : UInt64) : Int64 :=
  if word ≤ Int64.maxValue.toUInt64 then word.toInt64 else Int64.maxValue

/-- The sum of two words with a sign, which stays at the bound that it would cross. -/
def saturatingAddSigned (left right : Int64) : Int64 :=
  let sum := left + right
  if 0 ≤ right ∧ sum < left then Int64.maxValue
  else if right < 0 ∧ left < sum then Int64.minValue
  else sum

theorem clampToSigned_toInt (word : UInt64) :
    (clampToSigned word).toInt = min (word.toNat : Int) (2 ^ 63 - 1) := by
  have greatest : Int64.maxValue.toUInt64.toNat = 2 ^ 63 - 1 := rfl
  unfold clampToSigned
  split
  · next fits =>
    rw [UInt64.le_iff_toNat_le, greatest] at fits
    have halved : 2 * word.toBitVec.toNat < 2 ^ 64 := by
      rw [UInt64.toNat_toBitVec]
      omega
    have same : word.toInt64.toInt = word.toNat := BitVec.toInt_eq_toNat_of_lt halved
    omega
  · next exceeds =>
    rw [UInt64.le_iff_toNat_le, greatest] at exceeds
    rw [Int64.toInt_maxValue]
    omega

/-- A sum that wraps around lies on the wrong side of its first word, which tells it apart. -/
theorem saturatingAddSigned_toInt (left right : Int64) :
    (saturatingAddSigned left right).toInt =
      max (-2 ^ 63) (min (left.toInt + right.toInt) (2 ^ 63 - 1)) := by
  have leftLow := left.le_toInt
  have leftHigh := left.toInt_lt
  have rightLow := right.le_toInt
  have rightHigh := right.toInt_lt
  have wrapped := Int64.toInt_add left right
  rw [Int.bmod_def] at wrapped
  simp only [saturatingAddSigned, Int64.le_iff_toInt_le, Int64.lt_iff_toInt_lt, Int64.toInt_zero]
  split
  · rw [Int64.toInt_maxValue]
    omega
  · split
    · rw [Int64.toInt_minValue]
      omega
    · omega

end Words

/-- The whole seconds of a span fit a word. -/
theorem Span.seconds_lt (span : Span) : span.seconds < UInt64.size := by
  apply Nat.div_lt_of_lt_mul
  rw [Nat.mul_comm]
  exact span.bounded

namespace PrivateCa

/-- The last second of a certificate, counted in words. -/
def validityEndWord (now : Int64) (seconds : UInt64) : Int64 :=
  saturatingAddSigned now (clampToSigned seconds)

variable {now : Int} {lifetime : Span}

theorem validityEnd_eq (now : Int) (lifetime : Span) :
    validityEnd now lifetime = min (now + min (lifetime.seconds : Int) (2 ^ 63 - 1)) (2 ^ 63 - 1) :=
  rfl

theorem validityEndWord_toInt (low : -2 ^ 63 ≤ now) (high : now < 2 ^ 63) :
    (validityEndWord (Int64.ofInt now) (UInt64.ofNat lifetime.seconds)).toInt =
      validityEnd now lifetime := by
  rw [validityEndWord, saturatingAddSigned_toInt, clampToSigned_toInt,
    Int64.toInt_ofInt_of_le low high, UInt64.toNat_ofNat_of_lt' lifetime.seconds_lt, validityEnd_eq]
  omega

theorem le_validityEnd (high : now < 2 ^ 63) : now ≤ validityEnd now lifetime := by
  rw [validityEnd_eq]
  omega

theorem validityEnd_mono {later : Int} {longer : Span} (ordered : now ≤ later)
    (contained : lifetime.nanoseconds ≤ longer.nanoseconds) :
    validityEnd now lifetime ≤ validityEnd later longer := by
  have seconds : lifetime.seconds ≤ longer.seconds := Nat.div_le_div_right contained
  rw [validityEnd_eq, validityEnd_eq]
  omega

theorem validityEnd_exact (fits : 0 ≤ now ∨ lifetime.seconds < 2 ^ 63) :
    validityEnd now lifetime = min (now + lifetime.seconds) (2 ^ 63 - 1) := by
  rw [validityEnd_eq]
  omega

theorem validityEnd_of_past (past : now < 0) (long : 2 ^ 63 ≤ lifetime.seconds) :
    validityEnd now lifetime = now + (2 ^ 63 - 1) := by
  rw [validityEnd_eq]
  omega

/-- The calendar lies well within the seconds that words can count. -/
theorem word_of_isInCalendar {moment : Moment} (admitted : moment.isInCalendar = true) :
    -2 ^ 63 ≤ moment.second ∧ moment.second < 2 ^ 63 := by
  rw [Moment.isInCalendar, Bool.and_eq_true, decide_eq_true_eq, decide_eq_true_eq,
    Moment.firstSecond, Moment.lastSecond] at admitted
  omega

/-- Words count the last second of a certificate as integers do. It is no earlier than the present,
and later for a later present and a longer lifetime. It is their sum or the greatest second, save
that before 1970 a lifetime counts as the greatest second if it is longer. -/
theorem validity_end_never_wraps {now : Moment} (admitted : now.isInCalendar = true)
    (lifetime : Span) :
    let last := validityEnd now.second lifetime
    (validityEndWord (Int64.ofInt now.second) (UInt64.ofNat lifetime.seconds)).toInt = last ∧
    now.second ≤ last ∧
    (∀ longer : Span, lifetime.nanoseconds ≤ longer.nanoseconds →
      last ≤ validityEnd now.second longer) ∧
    (∀ later : Moment, later.isInCalendar = true → now.second ≤ later.second →
      last ≤ validityEnd later.second lifetime) ∧
    (0 ≤ now.second ∨ lifetime.seconds < 2 ^ 63 →
      last = min (now.second + lifetime.seconds) (2 ^ 63 - 1)) ∧
    (now.second < 0 → 2 ^ 63 ≤ lifetime.seconds → last = now.second + (2 ^ 63 - 1)) := by
  obtain ⟨low, high⟩ := word_of_isInCalendar admitted
  refine ⟨validityEndWord_toInt low high, le_validityEnd high, fun longer contained => ?_,
    fun later _ ordered => ?_, validityEnd_exact, validityEnd_of_past⟩
  · exact validityEnd_mono (Int.le_refl _) contained
  · exact validityEnd_mono ordered (Nat.le_refl _)

namespace Sample

/-- The moment at which the calendar starts. -/
def dawn : Moment := { second := Moment.firstSecond }

/-- A moment after 1970. -/
def present : Moment := { second := 1700000000 }

/-- The greatest span. -/
def longest : Span := ⟨UInt64.size * nanosPerSecond - 1, by decide⟩

end Sample

/-- The greatest span ends at the greatest second when it begins after 1970, and earlier when it
begins where the calendar does. -/
theorem sample_validity_cut_off :
    Sample.dawn.isInCalendar = true ∧ Sample.present.isInCalendar = true ∧
    Sample.dawn.second ≤ Sample.present.second ∧
    Span.zero.nanoseconds ≤ Sample.longest.nanoseconds ∧
    validityEnd Sample.dawn.second .zero ≤ validityEnd Sample.dawn.second Sample.longest ∧
    validityEnd Sample.dawn.second Sample.longest = 9223363702253547007 ∧
    validityEnd Sample.dawn.second Sample.longest ≤
      validityEnd Sample.present.second Sample.longest ∧
    validityEnd Sample.present.second Sample.longest = 9223372036854775807 := by
  have early : Sample.dawn.isInCalendar = true := by decide
  have late : Sample.present.isInCalendar = true := by decide
  have ordered : Sample.dawn.second ≤ Sample.present.second := by decide
  have contained : Span.zero.nanoseconds ≤ Sample.longest.nanoseconds := by decide
  obtain ⟨_, _, longer, _, _, _⟩ := validity_end_never_wraps early .zero
  obtain ⟨_, _, _, later, _, past⟩ := validity_end_never_wraps early Sample.longest
  obtain ⟨_, _, _, _, exactly, _⟩ := validity_end_never_wraps late Sample.longest
  exact ⟨early, late, ordered, contained, longer _ contained,
    (past (by decide) (by decide)).trans (by decide), later _ late ordered,
    (exactly (.inl (by decide))).trans (by decide)⟩

end PrivateCa

end Issuance
