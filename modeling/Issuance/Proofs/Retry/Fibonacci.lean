import Mathlib.Data.Nat.Fib.Basic
import Issuance.Retry.Fibonacci

namespace Issuance.FibonacciBackoff

/-- A multiple of the first backoff that the longest one cuts off. -/
def capped (first longest : UInt64) (factor : Nat) : Nat :=
  min (factor * first.toNat) longest.toNat

/-- The sequence has moved on some times from its start. -/
structure Stands (backoff : FibonacciBackoff) (moves : Nat) : Prop where
  previous : backoff.previous.toNat = capped backoff.first backoff.longest (Nat.fib moves)
  current : backoff.current.toNat = capped backoff.first backoff.longest (Nat.fib (moves + 1))

/-- The cut commutes with sums, so the stored numbers may be cut early. -/
theorem capped_add (first longest : UInt64) (left right : Nat) :
    min (capped first longest left + capped first longest right) longest.toNat =
      capped first longest (left + right) := by
  simp only [capped, Nat.add_mul]
  omega

theorem stands_start (first longest : UInt64) : (start first longest).Stands 0 := by
  constructor
  · simp [start, capped]
  · have least : (max first 1).toNat ≤ (max longest (max first 1)).toNat := by
      rw [UInt64.toNat_max longest]
      exact Nat.le_max_right _ _
    change (max first 1).toNat = min (Nat.fib 1 * (max first 1).toNat) _
    rw [Nat.fib_one, Nat.one_mul]
    exact (Nat.min_eq_left least).symm

/-- The longest backoff fits a word, so the saturation of the sum never shows. -/
theorem Stands.advance {backoff : FibonacciBackoff} {moves : Nat} (stands : backoff.Stands moves) :
    backoff.advance.Stands (moves + 1) := by
  constructor
  · exact stands.current
  · have fits : backoff.longest.toNat ≤ UInt64.size - 1 := by
      have bounded := backoff.longest.toNat_lt
      rw [UInt64.size]
      omega
    change (min (saturatingAdd backoff.previous backoff.current) backoff.longest).toNat =
      capped backoff.first backoff.longest (Nat.fib (moves + 2))
    rw [Nat.fib_add_two, ← capped_add, ← stands.previous, ← stands.current, UInt64.toNat_min,
      saturatingAdd_toNat]
    omega

/-- A backoff comes about from its start by moving on and by starting over. -/
inductive Reachable (first longest : UInt64) : FibonacciBackoff → Prop
  | start : Reachable first longest (start first longest)
  | advance {backoff : FibonacciBackoff} :
      Reachable first longest backoff → Reachable first longest backoff.advance
  | reset {backoff : FibonacciBackoff} :
      Reachable first longest backoff → Reachable first longest backoff.reset

/-- A fresh backoff is new or has just started over. -/
def IsFresh (first longest : UInt64) (backoff : FibonacciBackoff) : Prop :=
  backoff = start first longest ∨
    ∃ earlier, Reachable first longest earlier ∧ backoff = earlier.reset

/-- The backoff that a call finds, where the calls are counted from one. -/
def atCall (backoff : FibonacciBackoff) (call : Nat) : FibonacciBackoff :=
  advance^[call - 1] backoff

/-- The seconds that a call is told. -/
def secondsAt (backoff : FibonacciBackoff) (call : Nat) : Nat :=
  (backoff.atCall call).current.toNat

variable {first longest : UInt64} {backoff : FibonacciBackoff}

/-- The bounds of a backoff stay as they were at the start. -/
theorem Reachable.bounds (reachable : Reachable first longest backoff) :
    backoff.first = max first 1 ∧ backoff.longest = max longest (max first 1) := by
  induction reachable with
  | start => exact ⟨rfl, rfl⟩
  | advance _ ih => exact ih
  | reset _ ih => exact ih

/-- Starting over leaves nothing of what came before. -/
theorem IsFresh.eq_start (fresh : IsFresh first longest backoff) :
    backoff = start first longest := by
  obtain rfl | ⟨earlier, reachable, rfl⟩ := fresh
  · rfl
  · obtain ⟨same, longestSame⟩ := reachable.bounds
    rw [reset, start, same, longestSame]

/-- The bounds in seconds. -/
theorem start_bounds (first longest : UInt64) :
    (start first longest).first.toNat = max first.toNat 1 ∧
      (start first longest).longest.toNat = max longest.toNat (max first.toNat 1) := by
  constructor
  · exact UInt64.toNat_max _ _
  · change (max longest (max first 1)).toNat = _
    rw [UInt64.toNat_max, UInt64.toNat_max]
    rfl

/-- Moving on changes the position in the sequence and nothing else. -/
theorem Stands.iterate (stands : backoff.Stands 0) (moves : Nat) :
    let later := FibonacciBackoff.advance^[moves] backoff
    later.Stands moves ∧ later.first = backoff.first ∧ later.longest = backoff.longest := by
  induction moves with
  | zero => exact ⟨stands, rfl, rfl⟩
  | succ moves ih =>
      rw [Function.iterate_succ_apply']
      exact ⟨ih.1.advance, ih.2⟩

/-- A call is told a Fibonacci number of first backoffs or the longest one. -/
theorem secondsAt_start (first longest : UInt64) {call : Nat} (counted : 1 ≤ call) :
    (start first longest).secondsAt call =
      min (Nat.fib call * max first.toNat 1) (max longest.toNat (max first.toNat 1)) := by
  obtain ⟨stands, same, longestSame⟩ := (stands_start first longest).iterate (call - 1)
  rw [secondsAt, atCall, stands.current, same, longestSame, capped, (start_bounds first longest).1,
    (start_bounds first longest).2, Nat.sub_add_cancel counted]

/-- Fibonacci numbers outgrow every bound. -/
theorem le_fib_mul {bound call factor : Nat} (late : bound < call) (positive : 1 ≤ factor) :
    bound ≤ Nat.fib call * factor := by
  have grown := Nat.le_fib_add_one call
  calc bound ≤ Nat.fib call * 1 := by omega
    _ ≤ Nat.fib call * factor := Nat.mul_le_mul_left _ positive

/-- The calls on a fresh backoff are told the Fibonacci multiples of the first one up to the longest
one, as whole numbers without a bound have them. -/
theorem delays_are_capped_multiples (fresh : IsFresh first longest backoff) :
    let least := max first.toNat 1
    let most := max longest.toNat least
    (∀ call, 1 ≤ call → backoff.secondsAt call = min (Nat.fib call * least) most ∧
      (backoff.atCall call).due.nanoseconds =
        min (Nat.fib call * least) most * nanosPerSecond) ∧
    (∀ earlier later, 1 ≤ earlier → earlier ≤ later →
      backoff.secondsAt earlier ≤ backoff.secondsAt later) ∧
    (∀ call, 1 ≤ call → least ≤ backoff.secondsAt call ∧ backoff.secondsAt call ≤ most) ∧
    ∃ last, 1 ≤ last ∧ ∀ call, last ≤ call → backoff.secondsAt call = most := by
  obtain rfl := fresh.eq_start
  intro least most
  have told (call : Nat) (counted : 1 ≤ call) :
      (start first longest).secondsAt call = min (Nat.fib call * least) most :=
    secondsAt_start first longest counted
  have positive : 1 ≤ least := Nat.le_max_right _ _
  refine ⟨fun call counted => ⟨told call counted,
      congrArg (· * nanosPerSecond) (told call counted)⟩, fun earlier later counted ordered => ?_,
    fun call counted => ?_, most + 1, Nat.le_add_left _ _, fun call late => ?_⟩
  · rw [told earlier counted, told later (Nat.le_trans counted ordered)]
    have grown : Nat.fib earlier * least ≤ Nat.fib later * least :=
      Nat.mul_le_mul_right _ (Nat.fib_mono ordered)
    omega
  · rw [told call counted]
    have once : 1 * least ≤ Nat.fib call * least :=
      Nat.mul_le_mul_right _ (Nat.fib_pos.mpr counted)
    have ordered : least ≤ most := Nat.le_max_right _ _
    omega
  · rw [told call (Nat.le_trans (Nat.le_add_left _ _) late)]
    exact Nat.min_eq_right (le_fib_mul late positive)

namespace Sample

/-- A backoff that begins at half of the longest possible delay and has started over. -/
def steep : FibonacciBackoff :=
  (start 0x8000000000000000 0xFFFFFFFFFFFFFFFF).advance.advance.reset

end Sample

/-- Half of the longest possible delay comes twice, and its double is cut off. -/
theorem sample_delay_cut_off :
    IsFresh 0x8000000000000000 0xFFFFFFFFFFFFFFFF Sample.steep ∧
    Sample.steep.secondsAt 2 = 0x8000000000000000 ∧
    Sample.steep.secondsAt 3 = 0xFFFFFFFFFFFFFFFF := by
  have fresh : IsFresh 0x8000000000000000 0xFFFFFFFFFFFFFFFF Sample.steep :=
    .inr ⟨_, Reachable.start.advance.advance, rfl⟩
  obtain ⟨told, _, _, _⟩ := delays_are_capped_multiples fresh
  refine ⟨fresh, ?_, ?_⟩
  · rw [(told 2 (by decide)).1]
    decide
  · rw [(told 3 (by decide)).1]
    decide

end Issuance.FibonacciBackoff
