import Issuance.Proofs.Crowd.Ledger

namespace Issuance.ProvisionerCrowd

/-- The cache goes on to remember the key, and callers of the key come with the specification. -/
def Move.IsCalm (key : AuthorityKey) (spec : IssuerSpec) : Move → Prop
  | join other wanted => other = key → wanted = spec
  | perform _ _ => True
  | invalidate other => other ≠ key
  | clear => False

/-- No call for the key is in progress. -/
def IsAtRest (crowd : ProvisionerCrowd) (key : AuthorityKey) : Prop :=
  ∀ call ∈ crowd.calls, call.key = key → call.IsOver

/-- The calls for the key that joined a crowd on its way to a later one. -/
def newcomers (first last : ProvisionerCrowd) (key : AuthorityKey) : List ProvisionerCall :=
  (last.calls.drop first.calls.length).filter fun call => call.key == key

/-- The callers of the key that joined use its matching slot, and the earlier ones are the same. -/
structure Gathers (first last : ProvisionerCrowd) (key : AuthorityKey) (spec : IssuerSpec) :
    Prop where
  longer : first.calls.length ≤ last.calls.length
  old : ∀ call ∈ last.calls.take first.calls.length, call.key = key → call ∈ first.calls
  same : ∀ call ∈ last.calls.drop first.calls.length, call.key = key → call.spec = spec
  slot : ∀ call ∈ last.calls.drop first.calls.length, call.key = key →
    ∀ slot, call.stage.slot? = some slot → last.shared.cache.matching? key spec = some slot
  slots : first.shared.cache.slots.length ≤ last.shared.cache.slots.length
  preserves : first.shared.cache.Preserves last.shared.cache key spec

variable {first current last next : ProvisionerCrowd} {key : AuthorityKey} {spec : IssuerSpec}
  {moves : List Move} {move : Move} {place slot : Nat} {observation : Observation}
  {call moved : ProvisionerCall} {provisioner : Provisioner}

theorem mem_newcomers : call ∈ first.newcomers last key ↔
    call ∈ last.calls.drop first.calls.length ∧ call.key = key := by
  rw [newcomers, List.mem_filter, beq_iff_eq]

theorem Gathers.refl (first : ProvisionerCrowd) : first.Gathers first key spec where
  longer := Nat.le_refl _
  old _ member _ := List.mem_of_mem_take member
  same _ member := absurd member (by simp)
  slot _ member := absurd member (by simp)
  slots := Nat.le_refl _
  preserves := .refl _

section Performs

variable (gathers : first.Gathers current key spec) (rest : first.IsAtRest key)
  (reachable : Reachable current)
  (performs : current.Performs place call moved observation next)

include gathers rest performs in
/-- Only those that joined go on. -/
theorem Gathers.length_le_place (same : call.key = key) : first.calls.length ≤ place := by
  by_contra early
  have taken : (current.calls.take first.calls.length)[place]? = some call := by
    rw [List.getElem?_take_of_lt (Nat.lt_of_not_le early), performs.here]
  have member := gathers.old call (List.mem_of_getElem? taken) same
  exact performs.not_isOver (rest call member same)

include performs in
/-- A later call is an earlier one, or it is the one that moved. -/
theorem Performs.mem_take {other : ProvisionerCall} {count : Nat}
    (member : other ∈ next.calls.take count) :
    other ∈ current.calls.take count ∨ place < count ∧ other = moved := by
  rw [performs.calls, List.take_set] at member
  by_cases inside : place < count
  · rcases List.mem_or_eq_of_mem_set member with old | new
    · exact .inl old
    · exact .inr ⟨inside, new⟩
  · have outside : (current.calls.take count).length ≤ place :=
      Nat.le_trans (List.length_take_le _ _) (Nat.le_of_not_lt inside)
    rw [List.set_eq_of_length_le outside] at member
    exact .inl member

include performs in
theorem Performs.mem_drop {other : ProvisionerCall} {count : Nat}
    (member : other ∈ next.calls.drop count) :
    other ∈ current.calls.drop count ∨ count ≤ place ∧ other = moved := by
  rw [performs.calls, List.drop_set] at member
  split at member
  · exact .inl member
  · next inside =>
    rcases List.mem_or_eq_of_mem_set member with old | new
    · exact .inl old
    · exact .inr ⟨Nat.le_of_not_lt inside, new⟩

include performs in
theorem Performs.getElem?_drop {count : Nat} (inside : count ≤ place) :
    (current.calls.drop count)[place - count]? = some call := by
  rw [List.getElem?_drop, Nat.add_sub_cancel' inside, performs.here]

include gathers rest reachable performs

/-- The slot that matches a key changes only when a caller of the key makes it. -/
theorem Gathers.preserves_performs :
    current.shared.cache.Preserves next.shared.cache key spec := by
  have staged := reachable.isStaged call (List.mem_of_getElem? performs.here)
  rcases performs.enters_or_stays staged with ⟨slot, _, _, _, _, entered⟩ | ⟨_, _, same⟩
  · rw [entered]
    by_cases own : call.key = key
    · have inside := gathers.length_le_place rest performs own
      have member := List.mem_of_getElem? (performs.getElem?_drop inside)
      rw [own, gathers.same call member own]
      exact ProvisionerCache.preserves_enter
    · exact .inl (reachable.isSound.shared.cache.matching?_enter_of_ne (Ne.symm own) call.spec)
  · exact .inl (same.matching? key spec)

/-- A caller that joined enters the slot that matches. -/
theorem Gathers.slot_performs (own : call.key = key) (entered : moved.stage.slot? = some slot) :
    next.shared.cache.matching? key spec = some slot := by
  have inside := gathers.length_le_place rest performs own
  have member := List.mem_of_getElem? (performs.getElem?_drop inside)
  have staged := reachable.isStaged call (List.mem_of_getElem? performs.here)
  rcases performs.enters_or_stays staged with ⟨made, _, _, took, rfl, after⟩ | ⟨_, stays, _⟩
  · obtain rfl := Option.some.inj (took.symm.trans entered)
    rw [after, own, gathers.same call member own]
    exact ProvisionerCache.matching?_enter _ key spec
  · apply (gathers.preserves_performs rest reachable performs).matching?
    exact gathers.slot call member own slot (stays.symm.trans entered)

theorem Gathers.perform (takes : Takes current (.perform place observation) next) :
    first.Gathers next key spec := by
  have preserves := gathers.preserves_performs rest reachable performs
  have longer := takes.length_slots reachable.isStaged
  constructor
  case longer =>
    rw [performs.calls, List.length_set]
    exact gathers.longer
  case old =>
    intro other member own
    rcases performs.mem_take member with before | ⟨early, rfl⟩
    · exact gathers.old other before own
    -- Those that were there at first have ended, so the one that moved has joined.
    · have inside := gathers.length_le_place rest performs (performs.key.symm.trans own)
      exact absurd early (Nat.not_lt.mpr inside)
  case same =>
    intro other member own
    rcases performs.mem_drop member with before | ⟨inside, rfl⟩
    · exact gathers.same other before own
    · rw [performs.spec]
      exact gathers.same call (List.mem_of_getElem? (performs.getElem?_drop inside))
        (performs.key.symm.trans own)
  case slot =>
    intro other member own slot entered
    rcases performs.mem_drop member with before | ⟨_, rfl⟩
    · exact preserves.matching? (gathers.slot other before own slot entered)
    · exact gathers.slot_performs rest reachable performs (performs.key.symm.trans own) entered
  case slots => exact Nat.le_trans gathers.slots longer
  case preserves => exact gathers.preserves.trans gathers.slots preserves

end Performs

/-- Callers go on to gather. -/
theorem Gathers.takes (gathers : first.Gathers current key spec) (rest : first.IsAtRest key)
    (reachable : Reachable current) (takes : Takes current move next)
    (calm : move.IsCalm key spec) : first.Gathers next key spec := by
  cases move with
  | join other wanted =>
      cases takes with
      | join shared calls =>
        have longer : first.calls.length ≤ calls.length := gathers.longer
        constructor
        case longer => exact Nat.le_trans longer (by simp)
        case old =>
          intro call member own
          rw [List.take_append_of_le_length longer] at member
          exact gathers.old call member own
        case same =>
          intro call member own
          rw [List.drop_append_of_le_length longer] at member
          rcases List.mem_append.mp member with before | new
          · exact gathers.same call before own
          · obtain rfl := List.mem_singleton.mp new
            exact calm own
        case slot =>
          intro call member own slot entered
          rw [List.drop_append_of_le_length longer] at member
          rcases List.mem_append.mp member with before | new
          · exact gathers.slot call before own slot entered
          · obtain rfl := List.mem_singleton.mp new
            cases entered
        case slots => exact gathers.slots
        case preserves => exact gathers.preserves
  | perform place observation =>
      obtain ⟨call, moved, performs⟩ := takes.performs
      exact gathers.perform rest reachable performs takes
  | invalidate other =>
      cases takes with
      | invalidate shared calls =>
        have same : (shared.cache.invalidate other).matching? key spec = _ :=
          ProvisionerCache.matching?_invalidate_of_ne (Ne.symm calm)
        constructor
        case longer => exact gathers.longer
        case old => exact gathers.old
        case same => exact gathers.same
        case slot =>
          intro call member own slot entered
          exact same.trans (gathers.slot call member own slot entered)
        case slots => exact gathers.slots
        case preserves => exact gathers.preserves.trans gathers.slots (.inl same)
  | clear => exact calm.elim

/-- A run starts while no call for a key is in progress. In it the cache goes on to remember the
key, and callers of the key come with one specification. -/
structure CalmRun (first : ProvisionerCrowd) (moves : List Move) (last : ProvisionerCrowd)
    (key : AuthorityKey) (spec : IssuerSpec) : Prop where
  reachable : Reachable first
  rest : first.IsAtRest key
  run : Run first moves last
  calm : ∀ move ∈ moves, move.IsCalm key spec

theorem CalmRun.reachable_last (calm : CalmRun first moves last key spec) : Reachable last :=
  calm.run.reachable calm.reachable

/-- A calm run is calm from its start on. -/
theorem CalmRun.earlier (calm : CalmRun first moves last key spec) {before after : List Move}
    (split : moves = before ++ after) (run : Run first before current) :
    CalmRun first before current key spec :=
  ⟨calm.reachable, calm.rest, run, fun other member =>
    calm.calm other (split ▸ List.mem_append_left after member)⟩

theorem CalmRun.gathers (calm : CalmRun first moves last key spec) :
    first.Gathers last key spec := by
  obtain ⟨reachable, rest, run, calm⟩ := calm
  induction run with
  | start => exact .refl first
  | move run takes ih =>
      obtain ⟨before, now⟩ := List.forall_mem_append.mp calm
      exact (ih before).takes rest (run.reachable reachable) takes
        (List.forall_mem_singleton.mp now)

section CalmRun

variable (calm : CalmRun first moves last key spec)

theorem mem_calls_of_mem_newcomers (member : call ∈ first.newcomers last key) :
    call ∈ last.calls :=
  List.mem_of_mem_drop (mem_newcomers.mp member).1

include calm

theorem CalmRun.matching? (member : call ∈ first.newcomers last key)
    (entered : call.stage.slot? = some slot) :
    last.shared.cache.matching? key spec = some slot := by
  obtain ⟨joined, own⟩ := mem_newcomers.mp member
  exact calm.gathers.slot call joined own slot entered

/-- A caller that joined performed in the run all that it has observed. -/
theorem CalmRun.exists_performed (member : call ∈ first.newcomers last key) :
    ∃ place, ∀ observation ∈ call.observed, .perform place observation ∈ moves := by
  obtain ⟨index, here⟩ := List.mem_iff_getElem?.mp (mem_newcomers.mp member).1
  rw [List.getElem?_drop] at here
  refine ⟨first.calls.length + index, fun observation seen => ?_⟩
  have absent : first.record (first.calls.length + index) = [] := by simp [record]
  have recorded := calm.run.record (first.calls.length + index)
  rw [record_of_getElem? here, absent, List.nil_append] at recorded
  exact mem_observations.mp (recorded ▸ seen)

/-- Who performs for the key has joined. -/
theorem CalmRun.exists_newcomer (performed : .perform place observation ∈ moves) :
    ∃ call ∈ last.calls, observation ∈ call.observed ∧
      (call.key = key → call ∈ first.newcomers last key) := by
  obtain ⟨call, here, seen⟩ := calm.run.exists_observed performed
  refine ⟨call, List.mem_of_getElem? here, seen, fun own => ?_⟩
  obtain ⟨before, after, split⟩ := List.append_of_mem performed
  obtain ⟨current, next, early, takes, late⟩ := calm.run.split_at split
  obtain ⟨acting, moved, performs⟩ := takes.performs
  obtain ⟨passing, there, sameKey, _⟩ := takes.exists_call performs.here
  obtain ⟨later, found, stillKey, _⟩ := late.exists_call there
  obtain rfl := Option.some.inj (found.symm.trans here)
  have inside := (calm.earlier split early).gathers.length_le_place calm.rest performs
    (sameKey.symm.trans (stillKey.symm.trans own))
  refine mem_newcomers.mpr ⟨?_, own⟩
  apply List.mem_of_getElem? (i := place - first.calls.length)
  rw [List.getElem?_drop, Nat.add_sub_cancel' inside, here]

/-- A caller of the key was there at first, or it has joined. -/
theorem CalmRun.mem_or_mem_newcomers (member : call ∈ last.calls) (own : call.key = key) :
    call ∈ first.calls ∨ call ∈ first.newcomers last key := by
  rw [← List.take_append_drop first.calls.length last.calls] at member
  rcases List.mem_append.mp member with early | joined
  · exact .inl (calm.gathers.old call early own)
  · exact .inr (mem_newcomers.mpr ⟨joined, own⟩)

/-- Who has entered the slot of the key is a caller of the key with the specification. -/
theorem CalmRun.key_spec_of_entered
    (matched : last.shared.cache.matching? key spec = some slot) (member : call ∈ last.calls)
    (entered : call.stage.slot? = some slot) : call.key = key ∧ call.spec = spec := by
  have reachable := calm.reachable_last
  have offers := (reachable.isSound.shared.cache.matching?_eq_some.mp matched).2
  exact offers.unique (reachable.offers member entered)

/-- What the slot of the key holds was there at first, or one that joined has built it. -/
theorem CalmRun.keeps_or_provided
    (matched : last.shared.cache.matching? key spec = some slot)
    (held : last.shared.cache.held? slot = some provisioner) :
    first.shared.cache.Keeps key spec provisioner ∨
      ∃ builder ∈ first.newcomers last key, builder.stage = .provided slot provisioner.number ∧
        provisioner = ⟨provisioner.number, key, spec⟩ := by
  obtain ⟨builder, member, provided, made⟩ := calm.reachable_last.exists_provided held
  have entered := congrArg CallStage.slot? provided
  obtain ⟨own, same⟩ := calm.key_spec_of_entered matched member entered
  rcases calm.mem_or_mem_newcomers member own with old | joined
  · left
    have before := calm.reachable.isBalanced.held? old provided made
    have inside := (calm.reachable.offers old entered).lt_length
    rcases calm.gathers.preserves with stays | ⟨_, number, new, moved⟩
    · exact ProvisionerCache.keeps_iff.mpr ⟨slot, stays.symm.trans matched, before⟩
    · obtain rfl := Option.some.inj (moved.symm.trans matched)
      exact absurd inside (Nat.not_lt.mpr new)
  · right
    rw [own, same] at made
    exact ⟨builder, joined, provided, made⟩

end CalmRun

/-- The move makes an observation that passes a test. -/
def Move.shows (test : Observation → Bool) : Move → Bool
  | perform _ observation => test observation
  | _ => false

theorem countP_shows_perform (test : Observation → Bool) :
    [Move.perform place observation].countP (Move.shows test) = (test observation).toNat := by
  cases passes : test observation <;> simp [Move.shows, passes]

/-- What the callers of a key observe is counted by the stages of those that joined. -/
theorem CalmRun.countP_shows (calm : CalmRun first moves last key spec)
    (gain loss : Observation → Bool) {test : CallStage → Bool} (zero : test .joined = false)
    (law : ∀ {other wanted stage observation later},
      CallStage.Advance other wanted stage observation later →
        (test later && other == key).toNat + (loss observation).toNat =
          (test stage && other == key).toNat + (gain observation).toNat) :
    moves.countP (Move.shows gain) =
      moves.countP (Move.shows loss) +
        (first.newcomers last key).countP fun call => test call.stage := by
  obtain ⟨reachable, rest, run, calm⟩ := calm
  induction run with
  | start => simp [newcomers]
  | @move moves current next move run takes ih =>
      obtain ⟨before, now⟩ := List.forall_mem_append.mp calm
      have counted := ih before
      have gathers := CalmRun.gathers ⟨reachable, rest, run, before⟩
      have present := run.reachable reachable
      simp only [newcomers, List.countP_filter, List.countP_append] at counted ⊢
      cases move with
      | join other wanted =>
          cases takes with
          | join shared calls =>
            rw [List.drop_append_of_le_length gathers.longer]
            simpa [Move.shows, zero] using counted
      | perform place observation =>
          obtain ⟨call, moved, performs⟩ := takes.performs
          have changed := law
            (performs.advance (present.isStaged call (List.mem_of_getElem? performs.here))).1
          rw [countP_shows_perform, countP_shows_perform, performs.calls, List.drop_set]
          -- What an earlier call does is for another key, and no side counts it.
          rcases Nat.lt_or_ge place first.calls.length with early | inside
          · have other : (call.key == key) = false := by
              apply beq_false_of_ne
              intro own
              exact absurd early (Nat.not_lt.mpr (gathers.length_le_place rest performs own))
            rw [if_pos early]
            simp only [other, Bool.and_false, Bool.toNat_false] at changed
            omega
          · have moves := countP_set (performs.getElem?_drop inside) moved
              fun call => test call.stage && call.key == key
            rw [if_neg (Nat.not_lt.mpr inside)]
            simp only [performs.key] at moves
            omega
      | invalidate other =>
          cases takes
          simpa [Move.shows] using counted
      | clear =>
          cases takes
          simpa [Move.shows] using counted

theorem countP_shows_false (moves : List Move) : moves.countP (Move.shows fun _ => false) = 0 := by
  apply List.countP_eq_zero.mpr
  intro move _
  cases move <;> exact Bool.false_ne_true

/-- What each caller of a key observes once is counted by the callers that did. -/
theorem CalmRun.countP_shows_once (calm : CalmRun first moves last key spec)
    (gain : Observation → Bool) {test : CallStage → Bool} (zero : test .joined = false)
    (law : ∀ {other wanted stage observation later},
      CallStage.Advance other wanted stage observation later →
        (test later && other == key).toNat =
          (test stage && other == key).toNat + (gain observation).toNat) :
    moves.countP (Move.shows gain) =
      (first.newcomers last key).countP fun call => test call.stage := by
  have counted := calm.countP_shows gain (fun _ => false) zero law
  rwa [countP_shows_false, Nat.zero_add] at counted

end Issuance.ProvisionerCrowd
