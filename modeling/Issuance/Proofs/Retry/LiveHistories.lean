import Mathlib.Data.List.Induction
import Issuance.Proofs.Retry.Table

namespace Issuance

/-- A call on the retry table tells an error of a resource or its success. -/
structure RetryCall where
  resource : ResourceName
  instant : Instant
  isError : Bool
  deriving DecidableEq, Repr

namespace RetryCall

/-- The errors of a resource since its last success, the latest one first. -/
def streak (resource : ResourceName) (calls : List RetryCall) : List RetryCall :=
  (calls.filter (·.resource = resource)).reverse.takeWhile (·.isError)

/-- The calls come in the order of time, and their resources are plain. -/
structure IsRegular (calls : List RetryCall) : Prop where
  chronological : calls.Pairwise fun earlier later => earlier.instant ≤ later.instant
  plain : ∀ call ∈ calls, call.resource.IsPlain

instance (resource : ResourceName) : Decidable resource.IsPlain :=
  inferInstanceAs (Decidable (¬ _))

variable {resource : ResourceName} {calls : List RetryCall} {call : RetryCall}

/-- An error makes the streak of its resource longer, a success ends it, and the streaks of the
others stay. -/
theorem streak_concat : streak resource (calls ++ [call]) =
    if call.resource = resource then
      if call.isError then call :: streak resource calls else []
    else streak resource calls := by
  rw [streak, List.filter_append]
  by_cases same : call.resource = resource
  · simp [same, streak, List.takeWhile_cons]
  · simp [same, streak]

theorem IsRegular.init (regular : IsRegular (calls ++ [call])) : IsRegular calls where
  chronological := (List.pairwise_append.mp regular.chronological).1
  plain other member := regular.plain other (List.mem_append_left _ member)

theorem IsRegular.instant_le (regular : IsRegular (calls ++ [call])) :
    ∀ earlier ∈ calls, earlier.instant ≤ call.instant := by
  intro earlier member
  exact (List.pairwise_append.mp regular.chronological).2.2 earlier member call
    (List.mem_singleton_self call)

theorem IsRegular.last_plain (regular : IsRegular (calls ++ [call])) : call.resource.IsPlain :=
  regular.plain call List.mem_concat_self

end RetryCall

namespace ControllerConfig

/-- Twice the longest backoff in nanoseconds, where the seconds stay within a word. -/
def idleLimit (config : ControllerConfig) : Nat :=
  min (2 * config.backoffMax.toNat) (UInt64.size - 1) * nanosPerSecond

end ControllerConfig

namespace RetryTable

/-- What a call leaves behind. -/
def after (config : ControllerConfig) (table : RetryTable) (call : RetryCall) : RetryTable :=
  if call.isError then (table.recordError config call.instant call.resource.key).2
  else table.forget call.resource.key

/-- What some calls leave behind, from an empty table on. -/
def afterAll (config : ControllerConfig) (calls : List RetryCall) : RetryTable :=
  calls.foldl (after config) {}

variable {config : ControllerConfig} {table : RetryTable} {calls : List RetryCall}
  {call : RetryCall} {now : Instant} {key own : String}

@[simp] theorem afterAll_concat :
    afterAll config (calls ++ [call]) = (afterAll config calls).after config call :=
  List.foldl_concat _ _ _ _

theorem idleSpan_nanoseconds (config : ControllerConfig) :
    (idleSpan config).nanoseconds = config.idleLimit := by
  change (saturatingDouble config.backoffMax).toNat * nanosPerSecond = _
  rw [saturatingDouble, saturatingAdd_toNat, ← Nat.two_mul]
  rfl

/-- The history of a failing resource before the error is counted. -/
def historyOrNew (config : ControllerConfig) (now : Instant) (table : RetryTable) (key : String) :
    ErrorHistory :=
  (table.history? key).getD (.start config.backoffMin config.backoffMax now)

/-- The resource that fails is never pruned. -/
theorem history?_prune_own (distinct : table.keys.Nodup) (idle : Span) :
    (table.prune idle now key).history? key = table.history? key := by
  rw [history?_prune distinct]
  cases table.history? key <;> simp

theorem retry_recordError (distinct : table.keys.Nodup) :
    (table.recordError config now key).1 =
      ⟨(historyOrNew config now table key).backoff.due,
        ((historyOrNew config now table key).recordError now).errors⟩ := by
  simp only [recordError, history?_prune_own distinct]
  rfl

/-- An error moves the history of its resource on, and it drops the stale ones of the others. -/
theorem history?_recordError (distinct : table.keys.Nodup) :
    (table.recordError config now own).2.history? key =
      if key = own then some ((historyOrNew config now table own).recordError now).advance
      else (table.history? key).filter fun history => !history.isStale now (idleSpan config) := by
  have kept : (table.prune (idleSpan config) now own).keys.Nodup := nodup_filter distinct _
  simp only [recordError]
  rw [history?_store kept, history?_prune_own distinct, history?_prune distinct]
  by_cases same : key = own
  · simp only [same, if_true]
    rfl
  · cases table.history? key <;> simp [same, Option.filter_some]

/-- The table agrees with the calls so far. -/
structure Tracks (config : ControllerConfig) (calls : List RetryCall) (table : RetryTable) :
    Prop where
  distinct : table.keys.Nodup
  known : ∀ key ∈ table.keys, ∃ call ∈ calls, call.resource.key = key
  latest : ∀ (resource : ResourceName) (history : ErrorHistory), resource.IsPlain →
    table.history? resource.key = some history → ∃ last earlier,
      RetryCall.streak resource calls = last :: earlier ∧ history.lastError = last.instant
  live : ∀ (resource : ResourceName) (last : RetryCall) (earlier : List RetryCall),
    resource.IsPlain → RetryCall.streak resource calls = last :: earlier →
      (∀ call ∈ calls, call.instant - last.instant ≤ config.idleLimit) →
        (table.history? resource.key).isSome

theorem isStale_eq_false_iff {history : ErrorHistory} :
    history.isStale now (idleSpan config) = false ↔
      now - history.lastError ≤ config.idleLimit := by
  rw [ErrorHistory.isStale, idleSpan_nanoseconds]
  simp

theorem tracks_start : Tracks config [] {} where
  distinct := List.nodup_nil
  known _ member := absurd member List.not_mem_nil
  latest _ _ _ found := absurd found (by simp [history?])
  live _ _ _ _ failed := absurd failed (by simp [RetryCall.streak])

theorem history?_after (tracks : Tracks config calls table) (error : call.isError = true)
    (key : String) : (table.after config call).history? key =
      if key = call.resource.key then
        some ((historyOrNew config call.instant table call.resource.key).recordError
          call.instant).advance
      else (table.history? key).filter fun history =>
        !history.isStale call.instant (idleSpan config) := by
  rw [after, if_pos error]
  exact history?_recordError tracks.distinct

theorem Tracks.error (tracks : Tracks config calls table) (error : call.isError = true)
    (plain : call.resource.IsPlain) :
    Tracks config (calls ++ [call]) (table.after config call) := by
  rw [after, if_pos error]
  constructor
  case distinct => exact nodup_store (nodup_filter tracks.distinct _) _ _
  case known =>
    intro key member
    rcases mem_keys_store.mp member with rfl | old
    · exact ⟨call, List.mem_concat_self, rfl⟩
    · obtain ⟨earlier, present, same⟩ := tracks.known key (mem_keys_prune old)
      exact ⟨earlier, List.mem_append_left _ present, same⟩
  case latest =>
    intro resource history other found
    rw [history?_recordError tracks.distinct] at found
    rw [RetryCall.streak_concat, if_pos error]
    split at found
    · next same =>
      obtain rfl := ResourceName.key_injective other plain same
      obtain rfl := Option.some.inj found
      exact ⟨call, _, if_pos rfl, rfl⟩
    · next different =>
      rw [if_neg fun same : call.resource = resource => different (same ▸ rfl)]
      exact tracks.latest resource history other (Option.filter_eq_some_iff.mp found).1
  case live =>
    intro resource last earlier other failed recent
    rw [history?_recordError tracks.distinct]
    rw [RetryCall.streak_concat, if_pos error] at failed
    split
    · rfl
    · next different =>
      rw [if_neg fun same : call.resource = resource => different (same ▸ rfl)] at failed
      have present := tracks.live resource last earlier other failed fun earlier member =>
        recent earlier (List.mem_append_left _ member)
      obtain ⟨history, found⟩ := Option.isSome_iff_exists.mp present
      obtain ⟨same, _, begun, stamped⟩ := tracks.latest resource history other found
      obtain rfl : same = last := (List.cons.inj (begun.symm.trans failed)).1
      have fresh : history.isStale call.instant (idleSpan config) = false := by
        rw [isStale_eq_false_iff, stamped]
        exact recent call List.mem_concat_self
      simp [found, fresh, Option.filter_some]

theorem Tracks.success (tracks : Tracks config calls table) (success : call.isError = false)
    (plain : call.resource.IsPlain) :
    Tracks config (calls ++ [call]) (table.after config call) := by
  rw [after, if_neg (ne_true_of_eq_false success)]
  constructor
  case distinct => exact nodup_filter tracks.distinct _
  case known =>
    intro key member
    obtain ⟨earlier, present, same⟩ :=
      tracks.known key ((List.filter_sublist.map Prod.fst).subset member)
    exact ⟨earlier, List.mem_append_left _ present, same⟩
  case latest =>
    intro resource history other found
    rw [history?_forget tracks.distinct] at found
    split at found
    · cases found
    · next different =>
      rw [RetryCall.streak_concat,
        if_neg fun same : call.resource = resource => different (same ▸ rfl)]
      exact tracks.latest resource history other found
  case live =>
    intro resource last earlier other failed recent
    rw [RetryCall.streak_concat, if_neg (ne_true_of_eq_false success)] at failed
    split at failed
    · cases failed
    · next different =>
      rw [history?_forget tracks.distinct, if_neg fun same =>
        different (ResourceName.key_injective other plain same).symm]
      exact tracks.live resource last earlier other failed fun earlier member =>
        recent earlier (List.mem_append_left _ member)

/-- The table agrees with all calls that come in the order of time. -/
theorem tracks_afterAll (config : ControllerConfig) (regular : RetryCall.IsRegular calls) :
    Tracks config calls (afterAll config calls) := by
  induction calls using List.reverseRecOn with
  | nil => exact tracks_start
  | append_singleton calls call ih =>
      rw [afterAll_concat]
      cases kind : call.isError
      · exact (ih regular.init).success kind regular.last_plain
      · exact (ih regular.init).error kind regular.last_plain

/-- After an error there are a history of its resource and the ones that its time leaves alone. -/
theorem Tracks.isSome_history?_iff (tracks : Tracks config calls table)
    (regular : RetryCall.IsRegular (calls ++ [call])) (error : call.isError = true)
    {resource : ResourceName} (plain : resource.IsPlain) :
    ((table.after config call).history? resource.key).isSome ↔
      resource = call.resource ∨ ∃ last earlier,
        RetryCall.streak resource calls = last :: earlier ∧
          call.instant - last.instant ≤ config.idleLimit := by
  have tracksAfter := tracks.error error regular.last_plain
  have found : (table.after config call).history? resource.key = _ :=
    history?_after tracks error resource.key
  constructor
  · intro held
    by_cases own : resource = call.resource
    · exact .inl own
    have different : resource.key ≠ call.resource.key := fun same =>
      own (ResourceName.key_injective plain regular.last_plain same)
    obtain ⟨history, present⟩ := Option.isSome_iff_exists.mp held
    rw [found, if_neg different] at present
    obtain ⟨kept, fresh⟩ := Option.filter_eq_some_iff.mp present
    obtain ⟨last, earlier, failed, stamped⟩ := tracks.latest resource history plain kept
    refine .inr ⟨last, earlier, failed, ?_⟩
    rw [← stamped]
    exact isStale_eq_false_iff.mp (by simpa using fresh)
  · rintro (rfl | ⟨last, earlier, failed, recent⟩)
    · rw [found, if_pos rfl]
      rfl
    · by_cases own : resource.key = call.resource.key
      · rw [found, if_pos own]
        rfl
      have streak : RetryCall.streak resource (calls ++ [call]) = last :: earlier := by
        rw [RetryCall.streak_concat,
          if_neg fun same : call.resource = resource => own (same ▸ rfl), failed]
      apply tracksAfter.live resource last earlier plain streak
      intro other member
      have latest : other.instant ≤ call.instant := by
        rcases List.mem_append.mp member with early | new
        · exact regular.instant_le other early
        · exact Nat.le_of_eq (congrArg RetryCall.instant (List.mem_singleton.mp new))
      exact Nat.le_trans (Nat.sub_le_sub_right latest _) recent

/-- After an error the table holds the history of its resource, moved on, and the histories of the
other resources with a last error that is not too long ago and no success since, as they were. -/
structure HoldsLive (config : ControllerConfig) (calls : List RetryCall) (call : RetryCall)
    (before after : RetryTable) : Prop where
  distinct : after.keys.Nodup
  known : ∀ key ∈ after.keys, ∃ resource : ResourceName, resource.IsPlain ∧ resource.key = key
  holds : ∀ resource : ResourceName, resource.IsPlain →
    (resource.key ∈ after.keys ↔ resource = call.resource ∨ ∃ last earlier,
      RetryCall.streak resource calls = last :: earlier ∧
        call.instant - last.instant ≤ config.idleLimit)
  unchanged : ∀ key history, key ≠ call.resource.key → after.history? key = some history →
    before.history? key = some history
  own : after.history? call.resource.key = some
    (((before.history? call.resource.key).getD
      (.start config.backoffMin config.backoffMax call.instant)).recordError call.instant).advance

end RetryTable

/-- Whatever errors and successes came before, an error leaves exactly the histories of its own
resource and of the live ones. -/
theorem retry_table_holds_live (config : ControllerConfig) {calls : List RetryCall}
    {call : RetryCall} (regular : RetryCall.IsRegular (calls ++ [call]))
    (error : call.isError = true) :
    RetryTable.HoldsLive config calls call (RetryTable.afterAll config calls)
      (RetryTable.afterAll config (calls ++ [call])) := by
  have before := RetryTable.tracks_afterAll config regular.init
  have after := before.error error regular.last_plain
  have found := RetryTable.history?_after before error
  rw [RetryTable.afterAll_concat]
  constructor
  case distinct => exact after.distinct
  case known =>
    intro key member
    obtain ⟨earlier, present, same⟩ := after.known key member
    exact ⟨earlier.resource, regular.plain earlier present, same⟩
  case holds =>
    intro resource plain
    rw [← RetryTable.history?_isSome_iff]
    exact before.isSome_history?_iff regular error plain
  case unchanged =>
    intro key history different present
    rw [found, if_neg different] at present
    exact (Option.filter_eq_some_iff.mp present).1
  case own =>
    rw [found, if_pos rfl]
    rfl

namespace Sample

/-- The longest backoff is two seconds, so histories are stale after four. -/
def hasty : ControllerConfig := { backoffMin := 1, backoffMax := 2 }

/-- One resource fails, a second one three seconds later, and a third one fails and succeeds. -/
def failures : List RetryCall :=
  [⟨⟨"team", "web"⟩, 0, true⟩, ⟨⟨"team", "mail"⟩, 3000000000, true⟩,
    ⟨⟨"team", "shop"⟩, 4000000000, true⟩, ⟨⟨"team", "shop"⟩, 5000000000, false⟩]

/-- A fourth resource fails when the first failure is six seconds ago. -/
def failure : RetryCall := ⟨⟨"team", "chat"⟩, 6000000000, true⟩

theorem isRegular_failures : RetryCall.IsRegular (failures ++ [failure]) where
  chronological := by decide
  plain := by decide

end Sample

/-- Only the second and the fourth resource are left. -/
theorem sample_stale_history_dropped :
    Sample.failure.isError = true ∧ RetryCall.IsRegular (Sample.failures ++ [Sample.failure]) ∧
      (RetryTable.afterAll Sample.hasty (Sample.failures ++ [Sample.failure])).keys =
        ["team/mail", "team/chat"] ∧
      RetryTable.HoldsLive Sample.hasty Sample.failures Sample.failure
        (RetryTable.afterAll Sample.hasty Sample.failures)
        (RetryTable.afterAll Sample.hasty (Sample.failures ++ [Sample.failure])) := by
  refine ⟨rfl, Sample.isRegular_failures, by decide, ?_⟩
  exact retry_table_holds_live Sample.hasty Sample.isRegular_failures rfl

end Issuance
