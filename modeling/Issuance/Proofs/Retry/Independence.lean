import Mathlib.Data.List.Chain
import Issuance.Proofs.Retry.Fibonacci
import Issuance.Proofs.Retry.LiveHistories

namespace Issuance

namespace RetryCall

/-- Of the calls for a resource, two errors in a row are close to each other. -/
def IsSpaced (limit : Nat) (resource : ResourceName) (calls : List RetryCall) : Prop :=
  (calls.filter (·.resource = resource)).IsChain fun first second =>
    first.isError = true → second.isError = true → second.instant - first.instant ≤ limit

instance (limit : Nat) (resource : ResourceName) (calls : List RetryCall) :
    Decidable (IsSpaced limit resource calls) :=
  inferInstanceAs (Decidable (List.IsChain _ _))

variable {limit : Nat} {resource : ResourceName} {calls : List RetryCall} {call : RetryCall}

theorem IsSpaced.init (spaced : IsSpaced limit resource (calls ++ [call])) :
    IsSpaced limit resource calls := by
  rw [IsSpaced, List.filter_append] at spaced
  exact (List.isChain_append.mp spaced).1

/-- An error is close to the one before it in its streak. -/
theorem IsSpaced.last_close (spaced : IsSpaced limit call.resource (calls ++ [call]))
    (error : call.isError = true) {last : RetryCall} {earlier : List RetryCall}
    (failed : streak call.resource calls = last :: earlier) :
    call.instant - last.instant ≤ limit := by
  have latest : (streak call.resource calls).head? = some last := by rw [failed, List.head?_cons]
  rw [streak, List.head?_takeWhile, ← List.getLast?_eq_head?_reverse] at latest
  obtain ⟨before, wrong⟩ := Option.filter_eq_some_iff.mp latest
  have own : [call].filter (·.resource = call.resource) = [call] := by simp
  rw [IsSpaced, List.filter_append, own] at spaced
  exact (List.isChain_append.mp spaced).2.2 last before call rfl wrong error

end RetryCall

namespace ErrorHistory

/-- The history has seen a number of errors since it began. -/
structure Counts (config : ControllerConfig) (history : ErrorHistory) (errors : Nat) : Prop where
  first : history.backoff.first = max config.backoffMin 1
  longest : history.backoff.longest = max config.backoffMax (max config.backoffMin 1)
  stands : history.backoff.Stands errors
  errors : history.errors.toNat = min errors (UInt32.size - 1)

variable {config : ControllerConfig} {history : ErrorHistory} {errors : Nat}

theorem counts_start (config : ControllerConfig) (now : Instant) :
    (start config.backoffMin config.backoffMax now).Counts config 0 where
  first := rfl
  longest := rfl
  stands := FibonacciBackoff.stands_start _ _
  errors := rfl

theorem Counts.succ (counts : history.Counts config errors) (now : Instant) :
    (history.recordError now).advance.Counts config (errors + 1) where
  first := counts.first
  longest := counts.longest
  stands := counts.stands.advance
  errors := by
    change (saturatingSucc history.errors).toNat = _
    rw [saturatingSucc_toNat, counts.errors]
    omega

end ErrorHistory

namespace RetryTable

variable {config : ControllerConfig} {calls : List RetryCall} {call : RetryCall}
  {resource : ResourceName}

/-- A history that is not there has no streak to lose: the last error would be too recent for the
history to be dropped. -/
theorem counts_historyOrNew (regular : RetryCall.IsRegular (calls ++ [call]))
    (error : call.isError = true)
    (spaced : RetryCall.IsSpaced config.idleLimit call.resource (calls ++ [call]))
    (counted : ∀ history, (afterAll config calls).history? call.resource.key = some history →
      history.Counts config (RetryCall.streak call.resource calls).length) :
    (historyOrNew config call.instant (afterAll config calls) call.resource.key).Counts config
      (RetryCall.streak call.resource calls).length := by
  rw [historyOrNew]
  cases found : (afterAll config calls).history? call.resource.key with
  | some history => exact counted history found
  | none =>
    cases failed : RetryCall.streak call.resource calls with
    | nil => exact ErrorHistory.counts_start config call.instant
    | cons last earlier =>
      have close := spaced.last_close error failed
      have present := (tracks_afterAll config regular.init).live call.resource last
        earlier regular.last_plain failed fun other member =>
          Nat.le_trans (Nat.sub_le_sub_right (regular.instant_le other member) _) close
      rw [found] at present
      cases present

/-- The history of a well spaced resource has seen exactly the errors of its streak. -/
theorem counts_streak (regular : RetryCall.IsRegular calls) (plain : resource.IsPlain)
    (spaced : RetryCall.IsSpaced config.idleLimit resource calls) {history : ErrorHistory}
    (found : (afterAll config calls).history? resource.key = some history) :
    history.Counts config (RetryCall.streak resource calls).length := by
  induction calls using List.reverseRecOn generalizing history with
  | nil => cases found
  | append_singleton calls call ih =>
      have tracks := tracks_afterAll config regular.init
      rw [RetryCall.streak_concat]
      rw [afterAll_concat, after] at found
      by_cases own : call.resource = resource
      · subst own
        rw [if_pos rfl]
        cases error : call.isError
        · rw [error, if_neg Bool.false_ne_true, history?_forget tracks.distinct,
            if_pos rfl] at found
          cases found
        · rw [error, if_pos rfl, history?_recordError tracks.distinct, if_pos rfl] at found
          obtain rfl := Option.some.inj found
          have before := counts_historyOrNew regular error spaced fun history kept =>
            ih regular.init spaced.init kept
          exact before.succ call.instant
      · have different : resource.key ≠ call.resource.key := fun same =>
          own (ResourceName.key_injective plain regular.last_plain same).symm
        rw [if_neg own]
        apply ih regular.init spaced.init
        cases error : call.isError
        · rw [error, if_neg Bool.false_ne_true, history?_forget tracks.distinct,
            if_neg different] at found
          exact found
        · rw [error, if_pos rfl, history?_recordError tracks.distinct, if_neg different] at found
          exact (Option.filter_eq_some_iff.mp found).1

/-- Every history has seen some number of errors since it began. -/
def IsCounted (config : ControllerConfig) (table : RetryTable) : Prop :=
  ∀ entry ∈ table.histories, ∃ errors, entry.2.Counts config errors

section Counted

variable {table : RetryTable} (counted : table.IsCounted config) (now : Instant) (key : String)

include counted

theorem IsCounted.filter (keeps : String × ErrorHistory → Bool) :
    IsCounted config ⟨table.histories.filter keeps⟩ :=
  fun entry member => counted entry (List.mem_of_mem_filter member)

theorem IsCounted.historyOrNew :
    ∃ errors, (historyOrNew config now table key).Counts config errors := by
  rw [RetryTable.historyOrNew]
  cases found : table.history? key with
  | none => exact ⟨0, ErrorHistory.counts_start config now⟩
  | some history =>
    obtain ⟨front, back, entries, _⟩ := List.lookup_eq_some_iff.mp found
    exact counted (key, history) (entries ▸ List.mem_append_right front List.mem_cons_self)

theorem IsCounted.recordError : (table.recordError config now key).2.IsCounted config := by
  have kept : (table.prune (idleSpan config) now key).IsCounted config := counted.filter _
  obtain ⟨errors, counts⟩ := kept.historyOrNew now key
  intro entry member
  rcases List.mem_append.mp member with others | own
  · exact kept.filter _ entry others
  · rw [List.mem_singleton.mp own]
    exact ⟨errors + 1, counts.succ now⟩

/-- An error is answered with a multiple of the first backoff that the longest one cuts off. -/
theorem IsCounted.exists_delay : ∃ errors, 1 ≤ errors ∧
    (table.recordError config now key).1.delay.nanoseconds =
      FibonacciBackoff.capped (max config.backoffMin 1)
        (max config.backoffMax (max config.backoffMin 1)) (Nat.fib errors) * nanosPerSecond := by
  have kept : (table.prune (idleSpan config) now key).IsCounted config := counted.filter _
  obtain ⟨errors, counts⟩ := kept.historyOrNew now key
  refine ⟨errors + 1, Nat.succ_pos errors, ?_⟩
  rw [← counts.longest, ← counts.first, ← counts.stands.current]
  rfl

end Counted

theorem isCounted_afterAll (config : ControllerConfig) (calls : List RetryCall) :
    (afterAll config calls).IsCounted config := by
  induction calls using List.reverseRecOn with
  | nil => exact fun _ member => nomatch member
  | append_singleton calls call ih =>
      rw [afterAll_concat, after]
      split
      · exact ih.recordError call.instant call.resource.key
      · exact ih.filter _

end RetryTable

/-- An error of a well spaced resource, the next one of its streak, is answered with a delay and a
count that depend on the length of the streak and on nothing else. -/
theorem backoff_follows_own_errors (config : ControllerConfig) (least : 1 ≤ config.backoffMin)
    (ordered : config.backoffMin ≤ config.backoffMax) {calls : List RetryCall} {call : RetryCall}
    (regular : RetryCall.IsRegular (calls ++ [call])) (error : call.isError = true)
    (spaced : RetryCall.IsSpaced config.idleLimit call.resource (calls ++ [call])) :
    let retry := ((RetryTable.afterAll config calls).recordError config call.instant
      call.resource.key).1
    let errors := (RetryCall.streak call.resource (calls ++ [call])).length
    retry.delay.nanoseconds =
        min (Nat.fib errors * config.backoffMin.toNat) config.backoffMax.toNat * nanosPerSecond ∧
      retry.errors.toNat = min errors (2 ^ 32 - 1) := by
  intro retry errors
  have counts := RetryTable.counts_historyOrNew regular error spaced fun history found =>
    RetryTable.counts_streak regular.init regular.last_plain spaced.init found
  have length : errors = (RetryCall.streak call.resource calls).length + 1 := by
    simp [errors, RetryCall.streak_concat, error]
  have first : max config.backoffMin 1 = config.backoffMin := by
    apply UInt64.toNat_inj.mp
    rw [UInt64.toNat_max]
    exact Nat.max_eq_left (UInt64.le_iff_toNat_le.mp least)
  have longest : max config.backoffMax (max config.backoffMin 1) = config.backoffMax := by
    apply UInt64.toNat_inj.mp
    rw [first, UInt64.toNat_max]
    exact Nat.max_eq_left (UInt64.le_iff_toNat_le.mp ordered)
  have answer : retry = _ := RetryTable.retry_recordError
    (RetryTable.tracks_afterAll config regular.init).distinct
  rw [answer, length]
  constructor
  · change (_ : UInt64).toNat * nanosPerSecond = _
    rw [counts.stands.current, counts.first, counts.longest, longest, first]
    rfl
  · exact (counts.succ call.instant).errors

namespace Sample

/-- One resource fails twice, and while its second failure is due, the history of another one goes
stale. -/
def alternation : List RetryCall :=
  [⟨⟨"team", "mail"⟩, 0, true⟩, ⟨⟨"team", "web"⟩, 1000000000, true⟩,
    ⟨⟨"team", "web"⟩, 5000000000, true⟩, ⟨⟨"team", "mail"⟩, 5000000000, true⟩]

/-- The first resource fails for the third time. -/
def third : RetryCall := ⟨⟨"team", "web"⟩, 8000000000, true⟩

end Sample

/-- The history of the other resource began anew, but the third failure counts all three. -/
theorem sample_third_failure_counted :
    (1 : UInt64) ≤ Sample.hasty.backoffMin ∧ Sample.hasty.backoffMin ≤ Sample.hasty.backoffMax ∧
      RetryCall.IsRegular (Sample.alternation ++ [Sample.third]) ∧ Sample.third.isError = true ∧
      RetryCall.IsSpaced Sample.hasty.idleLimit ⟨"team", "web"⟩
        (Sample.alternation ++ [Sample.third]) ∧
      (((RetryTable.afterAll Sample.hasty Sample.alternation).history? "team/mail").map
        ErrorHistory.errors) = some 1 ∧
      ((RetryTable.afterAll Sample.hasty Sample.alternation).recordError Sample.hasty 8000000000
        "team/web").1.delay.nanoseconds = 2 * nanosPerSecond ∧
      ((RetryTable.afterAll Sample.hasty Sample.alternation).recordError Sample.hasty 8000000000
        "team/web").1.errors.toNat = 3 := by
  have regular : RetryCall.IsRegular (Sample.alternation ++ [Sample.third]) :=
    ⟨by decide, by decide⟩
  have spaced : RetryCall.IsSpaced Sample.hasty.idleLimit Sample.third.resource
      (Sample.alternation ++ [Sample.third]) := by decide
  have follows := backoff_follows_own_errors Sample.hasty (by decide) (by decide) regular rfl spaced
  exact ⟨by decide, by decide, regular, rfl, spaced, by decide, follows.1, follows.2⟩

end Issuance
