import Issuance.Proofs.Crowd.Gathering

namespace Issuance

namespace Observation

def isStart (key : AuthorityKey) : Observation → Bool
  | ⟨.startBuild other _, _⟩ => other == key
  | _ => false

def isEnd (key : AuthorityKey) : Observation → Bool
  | ⟨.finishBuild provisioner, _⟩ => provisioner.key == key
  | _ => false

def isSuccess (key : AuthorityKey) : Observation → Bool
  | ⟨.finishBuild provisioner, .ok _⟩ => provisioner.key == key
  | _ => false

end Observation

namespace ProvisionerCall

def hasSucceeded (call : ProvisionerCall) : Bool :=
  match call.result? with
  | some (.ok _) => true
  | _ => false

theorem hasSucceeded_iff {call : ProvisionerCall} :
    call.hasSucceeded = true ↔ ∃ provisioner, call.result? = some (.ok provisioner) := by
  unfold hasSucceeded
  split <;> simp_all

def hasFailed (call : ProvisionerCall) : Bool :=
  match call.result? with
  | some (.error _) => true
  | _ => false

end ProvisionerCall

namespace CallStage

def hasStarted (stage : CallStage) : Bool := stage.number?.isSome

def isBuilding : CallStage → Bool
  | building _ _ => true
  | _ => false

def isBuilt : CallStage → Bool
  | built _ _ | provided _ _ => true
  | _ => false

section Counts

variable {key other : AuthorityKey} {spec : IssuerSpec} {stage later : CallStage}
  {observation : Observation}

theorem Advance.hasStarted (advance : Advance other spec stage observation later) :
    (later.hasStarted && other == key).toNat =
      (stage.hasStarted && other == key).toNat + (observation.isStart key).toNat := by
  cases advance <;> simp [CallStage.hasStarted, number?, Observation.isStart]

theorem Advance.isBuilding (advance : Advance other spec stage observation later) :
    (later.isBuilding && other == key).toNat + (observation.isEnd key).toNat =
      (stage.isBuilding && other == key).toNat + (observation.isStart key).toNat := by
  cases advance <;> simp [CallStage.isBuilding, Observation.isStart, Observation.isEnd]

theorem Advance.isBuilt (advance : Advance other spec stage observation later) :
    (later.isBuilt && other == key).toNat =
      (stage.isBuilt && other == key).toNat + (observation.isSuccess key).toNat := by
  cases advance <;> simp [CallStage.isBuilt, Observation.isSuccess]

theorem exists_isEngaged_of_isBuilding (under : stage.isBuilding = true) :
    ∃ slot, stage.isEngaged slot = true := by
  cases stage with
  | building slot number => exact ⟨slot, beq_self_eq_true slot⟩
  | _ => cases under

theorem exists_isEngaged_of_isBuilt (done : stage.isBuilt = true) :
    ∃ slot, stage.isEngaged slot = true := by
  cases stage with
  | built slot number => exact ⟨slot, beq_self_eq_true slot⟩
  | provided slot number => exact ⟨slot, beq_self_eq_true slot⟩
  | _ => cases done

/-- A call that starts a build had the task of it. -/
theorem Advance.eq_tasked (advance : Advance other spec stage observation later)
    (start : observation.isStart key = true) : other = key ∧ ∃ slot, stage = tasked slot := by
  cases advance with
  | start slot number => exact ⟨beq_iff_eq.mp start, slot, rfl⟩
  | _ => cases start

end Counts

end CallStage

namespace ProvisionerCall.IsStaged

variable {call : ProvisionerCall} (staged : call.IsStaged) (returned : call.IsOver)

include staged returned

/-- A call that has returned after a build that succeeded has succeeded. -/
theorem hasSucceeded_of_isBuilt (built : call.stage.isBuilt = true) : call.hasSucceeded = true := by
  rw [IsOver, staged.result?_eq] at returned
  rw [hasSucceeded, staged.result?_eq]
  cases stage : call.stage with
  | provided slot number => rfl
  | built slot number =>
      rw [stage] at returned
      cases returned
  | _ =>
      rw [stage] at built
      cases built

/-- A call that has returned after a build has failed, or the build succeeded. -/
theorem hasStarted_eq :
    call.stage.hasStarted.toNat = call.hasFailed.toNat + call.stage.isBuilt.toNat := by
  rw [IsOver, staged.result?_eq] at returned
  rw [hasFailed, staged.result?_eq]
  cases stage : call.stage with
  | served slot provisioner => rfl
  | provided slot number => rfl
  | failed slot number failure => rfl
  | _ =>
      rw [stage] at returned
      cases returned

end ProvisionerCall.IsStaged

namespace ProvisionerCrowd

def starts (key : AuthorityKey) (moves : List Move) : Nat :=
  moves.countP (Move.shows (Observation.isStart key))

def ends (key : AuthorityKey) (moves : List Move) : Nat :=
  moves.countP (Move.shows (Observation.isEnd key))

def successes (key : AuthorityKey) (moves : List Move) : Nat :=
  moves.countP (Move.shows (Observation.isSuccess key))

/-- At most one build is under way at a time. Of the builds at most one succeeds, and none starts
after it or when there was a provisioner before. All callers that succeed get this provisioner, and
each one that fails gets the failure of its own build. A failure leaves the next caller to build
again, so that in the end there were as many builds as failures, and one more for the success. -/
structure SharesBuild (first : ProvisionerCrowd) (moves : List Move) (last : ProvisionerCrowd)
    (key : AuthorityKey) (spec : IssuerSpec) : Prop where
  single : ∀ before after, moves = before ++ after → starts key before ≤ ends key before + 1
  success : successes key moves ≤ 1
  final : ∀ before move after, moves = before ++ move :: after →
    move.shows (Observation.isStart key) = true →
      successes key before = 0 ∧ ∀ provisioner, ¬ first.shared.cache.Keeps key spec provisioner
  provider : ∀ call ∈ first.newcomers last key, ∀ provisioner,
    call.result? = some (.ok provisioner) →
      first.shared.cache.Keeps key spec provisioner ∨
        ∃ place, .perform place ⟨.finishBuild provisioner, .ok ()⟩ ∈ moves
  shared : ∀ call ∈ first.newcomers last key, ∀ provisioner,
    call.result? = some (.ok provisioner) →
      (∀ other ∈ first.newcomers last key, ∀ given, other.result? = some (.ok given) →
        given = provisioner) ∧
      ∀ place built, .perform place ⟨.finishBuild built, .ok ()⟩ ∈ moves → built.key = key →
        built = provisioner
  failed : ∀ call ∈ first.newcomers last key, ∀ failure, call.result? = some (.error failure) →
    ∃ number, ⟨.startBuild key spec, number⟩ ∈ call.observed ∧
      ⟨.finishBuild ⟨number, key, spec⟩, .error failure⟩ ∈ call.observed
  forgets : (∀ call ∈ first.newcomers last key, ∀ slot,
      ⟨.acquireSlot slot, none⟩ ∈ call.observed → call.IsOver) →
    (∀ provisioner, ¬ first.shared.cache.Keeps key spec provisioner) → successes key moves = 0 →
      (((last.shared.cache.enter key spec).2.acquire?
        (last.shared.cache.enter key spec).1).map Prod.fst = some none) ∧
      ∀ call ∈ first.newcomers last key, ∀ slot,
        call.observed = [⟨.enterSlot key spec, slot⟩] →
          (last.shared.cache.acquire? slot).map Prod.fst = some none
  counted : (∀ provisioner, ¬ first.shared.cache.Keeps key spec provisioner) →
    last.IsAtRest key →
      starts key moves =
        (first.newcomers last key).countP ProvisionerCall.hasFailed +
          if (first.newcomers last key).any ProvisionerCall.hasSucceeded then 1 else 0

section CalmRun

variable {first last : ProvisionerCrowd} {key : AuthorityKey} {spec : IssuerSpec}
  {moves before after : List Move} {move : Move} {place slot : Nat}
  {call other : ProvisionerCall} {provisioner : Provisioner} {failure : ProvisionerFailure}

theorem countP_eq_add {calls : List ProvisionerCall} {whole first second : ProvisionerCall → Bool}
    (parts : ∀ call ∈ calls, (whole call).toNat = (first call).toNat + (second call).toNat) :
    calls.countP whole = calls.countP first + calls.countP second := by
  induction calls with
  | nil => rfl
  | cons call calls ih =>
      obtain ⟨here, rest⟩ := List.forall_mem_cons.mp parts
      have counted (test : ProvisionerCall → Bool) :
          (call :: calls).countP test = calls.countP test + (test call).toNat := by
        cases passes : test call <;> simp [passes]
      have later := ih rest
      rw [counted, counted, counted]
      omega

variable (calm : CalmRun first moves last key spec)

include calm

theorem CalmRun.isStaged (member : call ∈ first.newcomers last key) : call.IsStaged :=
  calm.reachable_last.isStaged call (mem_calls_of_mem_newcomers member)

/-- At most one caller that joined is engaged in a slot. -/
theorem CalmRun.countP_le_one {test : CallStage → Bool}
    (engaged : ∀ stage, test stage = true → ∃ slot, stage.isEngaged slot = true) :
    ((first.newcomers last key).countP fun call => test call.stage) ≤ 1 := by
  cases matched : last.shared.cache.matching? key spec with
  | none =>
    have absent : ((first.newcomers last key).countP fun call => test call.stage) = 0 := by
      apply List.countP_eq_zero.mpr
      intro call member holds
      obtain ⟨slot, engages⟩ := engaged call.stage holds
      cases matched.symm.trans (calm.matching? member (CallStage.slot?_of_isEngaged engages))
    omega
  | some slot =>
    have part : (first.newcomers last key).Sublist last.calls :=
      List.filter_sublist.trans (List.drop_sublist _ _)
    calc ((first.newcomers last key).countP fun call => test call.stage)
        ≤ (first.newcomers last key).countP fun call => call.stage.isEngaged slot := by
          apply List.countP_mono_left
          intro call member holds
          obtain ⟨other, engages⟩ := engaged call.stage holds
          have same := calm.matching? member (CallStage.slot?_of_isEngaged engages)
          obtain rfl := Option.some.inj (matched.symm.trans same)
          exact engages
      _ ≤ last.calls.countP fun call => call.stage.isEngaged slot := part.countP_le
      _ ≤ 1 := calm.reachable_last.countP_isEngaged_le_one slot

theorem CalmRun.starts_eq :
    starts key moves = (first.newcomers last key).countP fun call => call.stage.hasStarted :=
  calm.countP_shows_once (Observation.isStart key) rfl CallStage.Advance.hasStarted

theorem CalmRun.starts_eq_ends_add :
    starts key moves = ends key moves +
      (first.newcomers last key).countP fun call => call.stage.isBuilding :=
  calm.countP_shows (Observation.isStart key) (Observation.isEnd key) rfl
    CallStage.Advance.isBuilding

theorem CalmRun.successes_eq :
    successes key moves = (first.newcomers last key).countP fun call => call.stage.isBuilt :=
  calm.countP_shows_once (Observation.isSuccess key) rfl CallStage.Advance.isBuilt

/-- At most one build is under way. -/
theorem CalmRun.starts_le : starts key moves ≤ ends key moves + 1 := by
  rw [calm.starts_eq_ends_add]
  apply Nat.add_le_add_left
  exact calm.countP_le_one fun _ => CallStage.exists_isEngaged_of_isBuilding

theorem CalmRun.successes_le : successes key moves ≤ 1 := by
  rw [calm.successes_eq]
  exact calm.countP_le_one fun _ => CallStage.exists_isEngaged_of_isBuilt

/-- Two callers that joined are not both engaged in slots. -/
theorem CalmRun.eq_of_isEngaged {own others : Nat} (member : call ∈ first.newcomers last key)
    (present : other ∈ first.newcomers last key) (engaged : call.stage.isEngaged own = true)
    (also : other.stage.isEngaged others = true) : call = other := by
  have matched := calm.matching? member (CallStage.slot?_of_isEngaged engaged)
  have same := calm.matching? present (CallStage.slot?_of_isEngaged also)
  obtain rfl := Option.some.inj (matched.symm.trans same)
  exact calm.reachable_last.eq_of_isEngaged (mem_calls_of_mem_newcomers member)
    (mem_calls_of_mem_newcomers present) engaged also

/-- A caller has the task of a build only where no provisioner was there at first. -/
theorem CalmRun.not_keeps (member : call ∈ first.newcomers last key)
    (busy : call.stage.isBusy slot = true) : ¬ first.shared.cache.Keeps key spec provisioner := by
  intro keeps
  obtain ⟨place, before, held⟩ := ProvisionerCache.keeps_iff.mp keeps
  have engaged := CallStage.isEngaged_of_isBusy busy
  have matched := calm.matching? member (CallStage.slot?_of_isEngaged engaged)
  have same := calm.gathers.preserves.matching? before
  obtain rfl := Option.some.inj (same.symm.trans matched)
  have still := calm.run.held? calm.reachable held
  rw [calm.reachable_last.held?_of_isBusy (mem_calls_of_mem_newcomers member) busy] at still
  cases still

/-- A build starts as the task of a caller that joined. -/
theorem CalmRun.exists_tasked (split : moves = before ++ move :: after)
    (start : move.shows (Observation.isStart key) = true) :
    ∃ current, CalmRun first before current key spec ∧
      ∃ call ∈ first.newcomers current key, ∃ slot, call.stage = .tasked slot := by
  obtain ⟨current, next, run, takes, _⟩ := calm.run.split_at split
  have early := calm.earlier split run
  cases move with
  | perform place observation =>
      obtain ⟨call, moved, performs⟩ := takes.performs
      have staged := early.reachable_last.isStaged call (List.mem_of_getElem? performs.here)
      obtain ⟨own, slot, tasked⟩ := (performs.advance staged).1.eq_tasked start
      have inside := early.gathers.length_le_place calm.rest performs own
      have joined := List.mem_of_getElem? (performs.getElem?_drop inside)
      exact ⟨current, early, call, mem_newcomers.mpr ⟨joined, own⟩, slot, tasked⟩
  | _ => cases start

/-- A build starts only where no other one has succeeded and nothing was there at first. -/
theorem CalmRun.start_final (split : moves = before ++ move :: after)
    (start : move.shows (Observation.isStart key) = true) :
    successes key before = 0 ∧ ∀ provisioner, ¬ first.shared.cache.Keeps key spec provisioner := by
  obtain ⟨current, early, call, member, slot, tasked⟩ := calm.exists_tasked split start
  have busy : call.stage.isBusy slot = true := by
    rw [tasked]
    exact beq_self_eq_true slot
  constructor
  · rw [early.successes_eq, List.countP_eq_zero]
    intro builder present built
    -- A caller with a build that has succeeded would be engaged in the same slot.
    obtain ⟨place, engages⟩ := CallStage.exists_isEngaged_of_isBuilt built
    obtain rfl := early.eq_of_isEngaged member present (CallStage.isEngaged_of_isBusy busy) engages
    rw [tasked] at built
    cases built
  · intro provisioner
    exact early.not_keeps member busy

/-- What a caller returns is the provisioner in the slot of the key. -/
theorem CalmRun.exists_held (member : call ∈ first.newcomers last key)
    (ended : call.result? = some (.ok provisioner)) :
    ∃ slot, last.shared.cache.matching? key spec = some slot ∧
      last.shared.cache.held? slot = some provisioner := by
  obtain ⟨slot, entered, held⟩ :=
    calm.reachable_last.exists_held (mem_calls_of_mem_newcomers member) ended
  exact ⟨slot, calm.matching? member entered, held⟩

/-- A caller that joined comes with the specification. -/
theorem CalmRun.key_spec (member : call ∈ first.newcomers last key) :
    call.key = key ∧ call.spec = spec := by
  obtain ⟨joined, own⟩ := mem_newcomers.mp member
  exact ⟨own, calm.gathers.same call joined own⟩

/-- What was not there before is built in the run. -/
theorem CalmRun.keeps_or_performed (member : call ∈ first.newcomers last key)
    (ended : call.result? = some (.ok provisioner)) :
    first.shared.cache.Keeps key spec provisioner ∨
      ∃ place, .perform place ⟨.finishBuild provisioner, .ok ()⟩ ∈ moves := by
  obtain ⟨slot, matched, held⟩ := calm.exists_held member ended
  rcases calm.keeps_or_provided matched held with kept | ⟨builder, joined, provided, made⟩
  · exact .inl kept
  · right
    obtain ⟨place, performed⟩ := calm.exists_performed joined
    refine ⟨place, performed _ ?_⟩
    obtain ⟨own, same⟩ := calm.key_spec joined
    rw [(calm.isStaged joined).observed, provided, own, same]
    simp [CallStage.observed, ← made]

/-- A build for the key that succeeds gives the provisioner that the callers return. -/
theorem CalmRun.eq_of_performed {built : Provisioner}
    (matched : last.shared.cache.matching? key spec = some slot)
    (held : last.shared.cache.held? slot = some provisioner)
    (performed : .perform place ⟨.finishBuild built, .ok ()⟩ ∈ moves) (own : built.key = key) :
    built = provisioner := by
  have reachable := calm.reachable_last
  obtain ⟨builder, member, seen, joins⟩ := calm.exists_newcomer performed
  rw [(reachable.isStaged builder member).observed] at seen
  obtain ⟨made, place, stage⟩ := CallStage.finishBuild_mem_observed seen
  have joined := joins ((congrArg Provisioner.key made).symm.trans own)
  rcases stage with stage | stage
  · have same := calm.matching? joined (congrArg CallStage.slot? stage)
    obtain rfl := Option.some.inj (same.symm.trans matched)
    have busy : builder.stage.isBusy place = true := by
      rw [stage]
      exact beq_self_eq_true place
    rw [reachable.held?_of_isBusy member busy] at held
    cases held
  · have same := calm.matching? joined (congrArg CallStage.slot? stage)
    obtain rfl := Option.some.inj (same.symm.trans matched)
    have left := reachable.isBalanced.held? member stage made
    exact Option.some.inj (left.symm.trans held)

/-- A caller that fails has run a build of its own, and it returns the failure of this build. -/
theorem CalmRun.exists_failed (member : call ∈ first.newcomers last key)
    (ended : call.result? = some (.error failure)) :
    ∃ number, ⟨.startBuild key spec, number⟩ ∈ call.observed ∧
      ⟨.finishBuild ⟨number, key, spec⟩, .error failure⟩ ∈ call.observed := by
  have staged := calm.isStaged member
  obtain ⟨own, same⟩ := calm.key_spec member
  rw [staged.result?_eq] at ended
  rw [staged.observed, own, same]
  cases stage : call.stage with
  | failed slot number other =>
      rw [stage] at ended
      cases ended
      refine ⟨number, ?_, ?_⟩
      · simp [CallStage.observed, CallStage.starting]
      · simp [CallStage.observed]
  | _ =>
      rw [stage] at ended
      cases ended

/-- A build of the key is the task of a caller that joined. -/
theorem CalmRun.exists_isBusy (matched : last.shared.cache.matching? key spec = some slot)
    (building : last.shared.cache.isBuilding slot = true) :
    ∃ call ∈ first.newcomers last key, call.stage.isBusy slot = true := by
  have reachable := calm.reachable_last
  obtain ⟨call, member, busy⟩ := reachable.exists_isBusy building
  have entered := CallStage.slot?_of_isEngaged (CallStage.isEngaged_of_isBusy busy)
  have own := (calm.key_spec_of_entered matched member entered).1
  rcases calm.mem_or_mem_newcomers member own with old | joined
  · exact absurd (calm.rest call old own) ((reachable.isStaged call member).not_isOver busy)
  · exact ⟨call, joined, busy⟩

/-- While no caller of the key has the task to build and none has succeeded, who asks next for the
slot of the key gets the task. -/
theorem CalmRun.acquire?_eq
    (idle : ∀ call ∈ first.newcomers last key, ∀ slot,
      ⟨.acquireSlot slot, none⟩ ∈ call.observed → call.IsOver)
    (missed : ∀ provisioner, ¬ first.shared.cache.Keeps key spec provisioner)
    (unbuilt : successes key moves = 0)
    (matched : last.shared.cache.matching? key spec = some slot) :
    (last.shared.cache.acquire? slot).map Prod.fst = some none := by
  have reachable := calm.reachable_last
  apply ProvisionerCache.acquire?_of_empty
  cases found : last.shared.cache.stateOf? slot with
  | none =>
    obtain ⟨there, present, _⟩ := (ProvisionerCache.matching?_eq_some.mp matched).2
    simp [ProvisionerCache.stateOf?, present] at found
  | some state =>
    cases state with
    | empty => rfl
    | building =>
      have under : last.shared.cache.isBuilding slot = true := by
        simp [ProvisionerCache.isBuilding, found]
      obtain ⟨call, member, busy⟩ := calm.exists_isBusy matched under
      have staged := calm.isStaged member
      have seen : ⟨.acquireSlot slot, none⟩ ∈ call.observed := by
        rw [staged.observed]
        exact CallStage.acquireSlot_mem_observed busy
      exact absurd (idle call member slot seen) (staged.not_isOver busy)
    | ready provisioner =>
      have held := ProvisionerCache.held?_eq_some.mpr found
      rcases calm.keeps_or_provided matched held with kept | ⟨builder, joined, provided, _⟩
      · exact absurd kept (missed provisioner)
      · rw [calm.successes_eq, List.countP_eq_zero] at unbuilt
        exact absurd (by rw [provided]; rfl) (unbuilt builder joined)

/-- After failures only, a new caller and all that wait get the task of the build. -/
theorem CalmRun.forgets
    (idle : ∀ call ∈ first.newcomers last key, ∀ slot,
      ⟨.acquireSlot slot, none⟩ ∈ call.observed → call.IsOver)
    (missed : ∀ provisioner, ¬ first.shared.cache.Keeps key spec provisioner)
    (unbuilt : successes key moves = 0) :
    ((last.shared.cache.enter key spec).2.acquire?
      (last.shared.cache.enter key spec).1).map Prod.fst = some none := by
  cases matched : last.shared.cache.matching? key spec with
  | none => exact ProvisionerCache.acquire?_enter_of_missed matched
  | some slot =>
    simp only [ProvisionerCache.enter, matched]
    exact calm.acquire?_eq idle missed unbuilt matched

/-- When all callers have returned, one build has succeeded if any of them did. -/
theorem CalmRun.countP_isBuilt
    (missed : ∀ provisioner, ¬ first.shared.cache.Keeps key spec provisioner)
    (rest : last.IsAtRest key) :
    ((first.newcomers last key).countP fun call => call.stage.isBuilt) =
      if (first.newcomers last key).any ProvisionerCall.hasSucceeded then 1 else 0 := by
  cases some : (first.newcomers last key).any ProvisionerCall.hasSucceeded with
  | true =>
    obtain ⟨call, member, succeeded⟩ := List.any_eq_true.mp some
    obtain ⟨provisioner, ended⟩ := ProvisionerCall.hasSucceeded_iff.mp succeeded
    obtain ⟨slot, matched, held⟩ := calm.exists_held member ended
    rcases calm.keeps_or_provided matched held with kept | ⟨builder, joined, provided, _⟩
    · exact absurd kept (missed provisioner)
    · apply Nat.le_antisymm (calm.countP_le_one fun _ => CallStage.exists_isEngaged_of_isBuilt)
      apply List.countP_pos_iff.mpr
      exact ⟨builder, joined, by rw [provided]; rfl⟩
  | false =>
    apply List.countP_eq_zero.mpr
    intro call member built
    have returned := rest call (mem_calls_of_mem_newcomers member) (mem_newcomers.mp member).2
    have succeeded := (calm.isStaged member).hasSucceeded_of_isBuilt returned built
    exact absurd succeeded (by simpa using List.any_eq_false.mp some call member)

/-- When all callers have returned, each build has failed or succeeded. -/
theorem CalmRun.starts_eq_of_rest (rest : last.IsAtRest key) :
    starts key moves = (first.newcomers last key).countP ProvisionerCall.hasFailed +
      (first.newcomers last key).countP fun call => call.stage.isBuilt := by
  rw [calm.starts_eq]
  apply countP_eq_add
  intro call member
  have returned := rest call (mem_calls_of_mem_newcomers member) (mem_newcomers.mp member).2
  exact (calm.isStaged member).hasStarted_eq returned

end CalmRun

end ProvisionerCrowd

/-- However callers of one key that come with one specification take their turns, they share one
build, as long as the cache remembers the key. -/
theorem provisioner_built_once {first last : ProvisionerCrowd} {key : AuthorityKey}
    {spec : IssuerSpec} {moves : List ProvisionerCrowd.Move}
    (calm : ProvisionerCrowd.CalmRun first moves last key spec) :
    ProvisionerCrowd.SharesBuild first moves last key spec := by
  constructor
  case single =>
    intro before after split
    obtain ⟨middle, early, late⟩ := calm.run.split split
    exact (calm.earlier split early).starts_le
  case success => exact calm.successes_le
  case final =>
    intro before move after split start
    exact calm.start_final split start
  case provider =>
    intro call member provisioner ended
    exact calm.keeps_or_performed member ended
  case shared =>
    intro call member provisioner ended
    obtain ⟨slot, matched, held⟩ := calm.exists_held member ended
    constructor
    · intro other present given returned
      obtain ⟨place, same, there⟩ := calm.exists_held present returned
      obtain rfl := Option.some.inj (same.symm.trans matched)
      exact Option.some.inj (there.symm.trans held)
    · intro place built performed own
      exact calm.eq_of_performed matched held performed own
  case failed =>
    intro call member failure ended
    exact calm.exists_failed member ended
  case forgets =>
    intro idle missed unbuilt
    refine ⟨calm.forgets idle missed unbuilt, fun call member slot waits => ?_⟩
    apply calm.acquire?_eq idle missed unbuilt
    apply calm.matching? member
    rw [ProvisionerCall.stage, waits]
    rfl
  case counted =>
    intro missed rest
    rw [calm.starts_eq_of_rest rest, calm.countP_isBuilt missed rest]

namespace Sample

/-- Three calls come for the same key. The first one fails to build the provisioner while the second
one waits. Then the second one builds it and the third one is served, after the cache has forgotten
another key. -/
theorem exists_retried :
    ∃ moves last, ProvisionerCrowd.CalmRun ⟨{}, []⟩ moves last provisioner.key issuer.spec ∧
      (ProvisionerCrowd.newcomers ⟨{}, []⟩ last provisioner.key).map ProvisionerCall.result? =
        [some (.error .inProgress), some (.ok rebuilt), some (.ok rebuilt)] := by
  have joined := ((ProvisionerCrowd.Run.start.move
    (.join {} [] provisioner.key issuer.spec)).move
      (.join _ _ provisioner.key issuer.spec)).move (.join _ _ provisioner.key issuer.spec)
  have started := ProvisionerCrowd.Run.goesOn [] _
    [⟨.enterSlot provisioner.key issuer.spec, 0⟩, ⟨.acquireSlot 0, none⟩,
      ⟨.startBuild provisioner.key issuer.spec, 1⟩]
    joined (.perform _ (.perform _ (.perform _ (.refl _)))) ⟨rfl, rfl, nofun, trivial⟩
  have waiting := ProvisionerCrowd.Run.goesOn [_] _
    [⟨.enterSlot provisioner.key issuer.spec, 0⟩] started (.perform _ (.refl _)) ⟨rfl, trivial⟩
  have failed := ProvisionerCrowd.Run.goesOn [] _
    [⟨.finishBuild provisioner, .error .inProgress⟩, ⟨.settleSlot 0 none, ()⟩] waiting
    (.perform _ (.perform _ (.refl _))) ⟨trivial, trivial, trivial⟩
  have unused : ∀ earlier ∈ [provisioner], earlier.number ≠ 2 := by decide
  have built := ProvisionerCrowd.Run.goesOn [_] _
    [⟨.acquireSlot 0, none⟩, ⟨.startBuild provisioner.key issuer.spec, 2⟩,
      ⟨.finishBuild rebuilt, .ok ()⟩, ⟨.settleSlot 0 (some rebuilt), ()⟩] failed
    (.perform _ (.perform _ (.perform _ (.perform _ (.refl _)))))
    ⟨rfl, unused, trivial, trivial, trivial⟩
  have forgotten := built.move (.invalidate _ _ (.issuer "team" "other"))
  have served := ProvisionerCrowd.Run.goesOn [_, _] []
    [⟨.enterSlot provisioner.key issuer.spec, 0⟩, ⟨.acquireSlot 0, some rebuilt⟩] forgotten
    (.perform _ (.perform _ (.refl _))) ⟨rfl, rfl, trivial⟩
  have other : AuthorityKey.issuer "team" "other" ≠ provisioner.key := by decide
  refine ⟨_, _, ⟨.start, nofun, served, ?_⟩, rfl⟩
  simp [ProvisionerCrowd.Move.IsCalm, other]

end Sample

/-- The failure of the first build is returned once, and the second build serves two callers. -/
theorem sample_retried_build_shared :
    ∃ moves last, ProvisionerCrowd.CalmRun ⟨{}, []⟩ moves last Sample.provisioner.key
        Sample.issuer.spec ∧
      (ProvisionerCrowd.newcomers ⟨{}, []⟩ last Sample.provisioner.key).map
          ProvisionerCall.result? =
        [some (.error .inProgress), some (.ok Sample.rebuilt), some (.ok Sample.rebuilt)] ∧
      ProvisionerCrowd.SharesBuild ⟨{}, []⟩ moves last Sample.provisioner.key
        Sample.issuer.spec := by
  obtain ⟨moves, last, calm, results⟩ := Sample.exists_retried
  exact ⟨moves, last, calm, results, provisioner_built_once calm⟩

end Issuance
