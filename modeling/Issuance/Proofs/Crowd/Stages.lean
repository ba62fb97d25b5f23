import Issuance.Proofs.Crowd.Moves

namespace Issuance

/-- How far a call for a provisioner has come. -/
inductive CallStage where
  | joined
  | entered (slot : Nat)
  | served (slot : Nat) (provisioner : Provisioner)
  | tasked (slot : Nat)
  | building (slot number : Nat)
  | built (slot number : Nat)
  | broken (slot number : Nat) (failure : ProvisionerFailure)
  | provided (slot number : Nat)
  | failed (slot number : Nat) (failure : ProvisionerFailure)

namespace CallStage

/-- The stage after one more observation. -/
def after : CallStage → Observation → CallStage
  | joined, ⟨.enterSlot _ _, slot⟩ => entered slot
  | entered slot, ⟨.acquireSlot _, some provisioner⟩ => served slot provisioner
  | entered slot, ⟨.acquireSlot _, none⟩ => tasked slot
  | tasked slot, ⟨.startBuild _ _, number⟩ => building slot number
  | building slot number, ⟨.finishBuild _, .ok _⟩ => built slot number
  | building slot number, ⟨.finishBuild _, .error failure⟩ => broken slot number failure
  | built slot number, ⟨.settleSlot _ _, _⟩ => provided slot number
  | broken slot number failure, ⟨.settleSlot _ _, _⟩ => failed slot number failure
  | stage, _ => stage

def slot? : CallStage → Option Nat
  | joined => none
  | entered slot | served slot _ | tasked slot | building slot _ | built slot _
  | broken slot _ _ | provided slot _ | failed slot _ _ => some slot

def number? : CallStage → Option Nat
  | joined | entered _ | served _ _ | tasked _ => none
  | building _ number | built _ number | broken _ number _ | provided _ number
  | failed _ number _ => some number

section Call

variable (key : AuthorityKey) (spec : IssuerSpec)

/-- What a call has observed when it tries to get a slot. -/
def entering (slot : Nat) : List Observation := [⟨.enterSlot key spec, slot⟩]

/-- What a call has observed when its build has started. -/
def starting (slot number : Nat) : List Observation :=
  entering key spec slot ++ [⟨.acquireSlot slot, none⟩, ⟨.startBuild key spec, number⟩]

/-- What a call has observed at a stage. -/
def observed : CallStage → List Observation
  | joined => []
  | entered slot => entering key spec slot
  | served slot provisioner => entering key spec slot ++ [⟨.acquireSlot slot, some provisioner⟩]
  | tasked slot => entering key spec slot ++ [⟨.acquireSlot slot, none⟩]
  | building slot number => starting key spec slot number
  | built slot number =>
    starting key spec slot number ++ [⟨.finishBuild ⟨number, key, spec⟩, .ok ()⟩]
  | broken slot number failure =>
    starting key spec slot number ++ [⟨.finishBuild ⟨number, key, spec⟩, .error failure⟩]
  | provided slot number =>
    starting key spec slot number ++
      [⟨.finishBuild ⟨number, key, spec⟩, .ok ()⟩,
        ⟨.settleSlot slot (some ⟨number, key, spec⟩), ()⟩]
  | failed slot number failure =>
    starting key spec slot number ++
      [⟨.finishBuild ⟨number, key, spec⟩, .error failure⟩, ⟨.settleSlot slot none, ()⟩]

def acquiring (slot : Nat) : Program (Except ProvisionerFailure Provisioner) := do
  match ← Program.ask (.acquireSlot slot) with
  | some provisioner => return .ok provisioner
  | none => Reconcile.build slot key spec

def filling (slot number : Nat) : Program (Except ProvisionerFailure Provisioner) := do
  Program.ask (.settleSlot slot (some ⟨number, key, spec⟩))
  return .ok ⟨number, key, spec⟩

def leaving (slot : Nat) (failure : ProvisionerFailure) :
    Program (Except ProvisionerFailure Provisioner) := do
  Program.ask (.settleSlot slot none)
  return .error failure

def finishing (slot number : Nat) : Program (Except ProvisionerFailure Provisioner) := do
  match ← Program.ask (.finishBuild ⟨number, key, spec⟩) with
  | .error failure => leaving slot failure
  | .ok _ => filling key spec slot number

/-- What a call still has to do at a stage. -/
def rest : CallStage → Program (Except ProvisionerFailure Provisioner)
  | joined => Reconcile.provisionerFor key spec
  | entered slot => acquiring key spec slot
  | served _ provisioner => .pure (.ok provisioner)
  | tasked slot => Reconcile.build slot key spec
  | building slot number => finishing key spec slot number
  | built slot number => filling key spec slot number
  | broken slot _ failure => leaving slot failure
  | provided _ number => .pure (.ok ⟨number, key, spec⟩)
  | failed _ _ failure => .pure (.error failure)

def result? : CallStage → Option (Except ProvisionerFailure Provisioner)
  | served _ provisioner => some (.ok provisioner)
  | provided _ number => some (.ok ⟨number, key, spec⟩)
  | failed _ _ failure => some (.error failure)
  | _ => none

/-- The call moves on from a stage with an observation. -/
inductive Advance : CallStage → Observation → CallStage → Prop where
  | enter (slot : Nat) : Advance joined ⟨.enterSlot key spec, slot⟩ (entered slot)
  | serve (slot : Nat) (provisioner : Provisioner) :
      Advance (entered slot) ⟨.acquireSlot slot, some provisioner⟩ (served slot provisioner)
  | take (slot : Nat) : Advance (entered slot) ⟨.acquireSlot slot, none⟩ (tasked slot)
  | start (slot number : Nat) :
      Advance (tasked slot) ⟨.startBuild key spec, number⟩ (building slot number)
  | succeed (slot number : Nat) :
      Advance (building slot number) ⟨.finishBuild ⟨number, key, spec⟩, .ok ()⟩ (built slot number)
  | fail (slot number : Nat) (failure : ProvisionerFailure) :
      Advance (building slot number) ⟨.finishBuild ⟨number, key, spec⟩, .error failure⟩
        (broken slot number failure)
  | fill (slot number : Nat) :
      Advance (built slot number) ⟨.settleSlot slot (some ⟨number, key, spec⟩), ()⟩
        (provided slot number)
  | leave (slot number : Nat) (failure : ProvisionerFailure) :
      Advance (broken slot number failure) ⟨.settleSlot slot none, ()⟩ (failed slot number failure)

variable {key spec}

/-- The next effect of a call and its answer decide the next stage. -/
theorem advance_of_rest {stage : CallStage} {effect : Effect}
    {next : effect.Answer → Program (Except ProvisionerFailure Provisioner)}
    (perform : stage.rest key spec = .perform effect next) (answer : effect.Answer) :
    Advance key spec stage ⟨effect, answer⟩ (stage.after ⟨effect, answer⟩) ∧
      next answer = (stage.after ⟨effect, answer⟩).rest key spec := by
  cases stage with
  | joined =>
      cases perform
      refine ⟨.enter answer, congrArg (Program.perform _) (funext fun held => ?_)⟩
      cases held <;> rfl
  | entered slot =>
      cases perform
      cases answer with
      | none => exact ⟨.take slot, rfl⟩
      | some provisioner => exact ⟨.serve slot provisioner, rfl⟩
  | tasked slot =>
      cases perform
      refine ⟨.start slot answer, congrArg (Program.perform _) (funext fun finished => ?_)⟩
      cases finished <;> rfl
  | building slot number =>
      cases perform
      cases answer with
      | error failure => exact ⟨.fail slot number failure, rfl⟩
      | ok _ => exact ⟨.succeed slot number, rfl⟩
  | built slot number =>
      cases perform
      exact ⟨.fill slot number, rfl⟩
  | broken slot number failure =>
      cases perform
      exact ⟨.leave slot number failure, rfl⟩
  | served slot provisioner => cases perform
  | provided slot number => cases perform
  | failed slot number failure => cases perform

theorem Advance.observed {stage later : CallStage} {observation : Observation}
    (advance : Advance key spec stage observation later) :
    later.observed key spec = stage.observed key spec ++ [observation] := by
  cases advance <;> rfl

theorem enterSlot_mem_observed {stage : CallStage} {slot : Nat}
    (entered : stage.slot? = some slot) :
    ⟨.enterSlot key spec, slot⟩ ∈ stage.observed key spec := by
  cases stage <;> cases entered <;> exact List.mem_cons_self

/-- A call enters one slot. -/
theorem slot?_of_enterSlot_mem {stage : CallStage} {other : AuthorityKey} {wanted : IssuerSpec}
    {slot : Nat} (seen : ⟨.enterSlot other wanted, slot⟩ ∈ stage.observed key spec) :
    stage.slot? = some slot ∧ key = other ∧ spec = wanted := by
  cases stage <;> simp_all [CallStage.observed, starting, entering, slot?]

/-- A call enters its slot before it starts a build. -/
theorem startBuild_mem_observed {stage : CallStage} {other : AuthorityKey} {wanted : IssuerSpec}
    {number : Nat} (seen : ⟨.startBuild other wanted, number⟩ ∈ stage.observed key spec) :
    (∃ slot, stage.slot? = some slot) ∧ key = other ∧ spec = wanted := by
  cases stage <;> simp_all [CallStage.observed, starting, entering, slot?]

/-- A call fills its slot with what it has built. -/
theorem settleSlot_mem_observed {stage : CallStage} {slot : Nat} {provisioner : Provisioner}
    (seen : ⟨.settleSlot slot (some provisioner), ()⟩ ∈ stage.observed key spec) :
    stage = provided slot provisioner.number ∧ provisioner = ⟨provisioner.number, key, spec⟩ := by
  cases stage with
  | provided other number =>
      obtain ⟨rfl, rfl⟩ : slot = other ∧ provisioner = ⟨number, key, spec⟩ := by
        simpa [CallStage.observed, starting, entering] using seen
      exact ⟨rfl, rfl⟩
  | _ => simp [CallStage.observed, starting, entering] at seen

/-- Only a build that succeeded ended well. -/
theorem finishBuild_mem_observed {stage : CallStage} {provisioner : Provisioner}
    (seen : ⟨.finishBuild provisioner, .ok ()⟩ ∈ stage.observed key spec) :
    provisioner = ⟨provisioner.number, key, spec⟩ ∧
      ∃ slot, stage = built slot provisioner.number ∨ stage = provided slot provisioner.number := by
  cases stage with
  | built slot number =>
      obtain rfl : provisioner = ⟨number, key, spec⟩ := by
        simpa [CallStage.observed, starting, entering] using seen
      exact ⟨rfl, slot, .inl rfl⟩
  | provided slot number =>
      obtain rfl : provisioner = ⟨number, key, spec⟩ := by
        simpa [CallStage.observed, starting, entering] using seen
      exact ⟨rfl, slot, .inr rfl⟩
  | _ => simp [CallStage.observed, starting, entering] at seen

end Call

end CallStage

namespace ProvisionerCall

def stage (call : ProvisionerCall) : CallStage := call.observed.foldl CallStage.after .joined

@[simp] theorem stage_join (key : AuthorityKey) (spec : IssuerSpec)
    (rest : Program (Except ProvisionerFailure Provisioner)) :
    stage ⟨key, spec, [], rest⟩ = .joined := rfl

/-- The stage of a call tells what the call has observed and what it still has to do. -/
structure IsStaged (call : ProvisionerCall) : Prop where
  observed : call.observed = call.stage.observed call.key call.spec
  rest : call.rest = call.stage.rest call.key call.spec

variable {call : ProvisionerCall}

theorem isStaged_join (key : AuthorityKey) (spec : IssuerSpec) :
    IsStaged ⟨key, spec, [], Reconcile.provisionerFor key spec⟩ := ⟨rfl, rfl⟩

/-- What a call has returned is told by its stage. -/
theorem IsStaged.result?_eq (staged : call.IsStaged) :
    call.result? = call.stage.result? call.key call.spec := by
  unfold result?
  rw [staged.rest]
  cases call.stage <;> rfl

end ProvisionerCall

namespace ProvisionerCrowd

variable {crowd next : ProvisionerCrowd} {move : Move} {place : Nat} {observation : Observation}
  {call moved : ProvisionerCall}

/-- A call that performs an effect moves on by one stage. -/
theorem Performs.advance (performs : crowd.Performs place call moved observation next)
    (staged : call.IsStaged) :
    CallStage.Advance call.key call.spec call.stage observation moved.stage ∧ moved.IsStaged := by
  obtain ⟨rest, going, continued⟩ := performs.goesOn
  obtain ⟨advance, follows⟩ :=
    CallStage.advance_of_rest (staged.rest.symm.trans going) observation.answer
  have stage : moved.stage = call.stage.after observation := by
    unfold ProvisionerCall.stage
    rw [performs.observed, List.foldl_concat]
  rw [stage]
  refine ⟨advance, ?_, ?_⟩
  · rw [performs.observed, performs.key, performs.spec, stage, advance.observed]
    exact congrArg (· ++ [observation]) staged.observed
  · rw [performs.key, performs.spec, stage, continued]
    exact follows

def IsStaged (crowd : ProvisionerCrowd) : Prop := ∀ call ∈ crowd.calls, call.IsStaged

theorem IsStaged.takes (staged : crowd.IsStaged) (takes : Takes crowd move next) :
    next.IsStaged := by
  cases move with
  | join key spec =>
      cases takes
      exact List.forall_mem_append.mpr
        ⟨staged, List.forall_mem_singleton.mpr (ProvisionerCall.isStaged_join key spec)⟩
  | perform place observation =>
      obtain ⟨call, moved, performs⟩ := takes.performs
      have here := staged call (List.mem_of_getElem? performs.here)
      intro other member
      rw [performs.calls] at member
      rcases List.mem_or_eq_of_mem_set member with old | rfl
      · exact staged other old
      · exact (performs.advance here).2
  | invalidate key =>
      cases takes
      exact staged
  | clear =>
      cases takes
      exact staged

theorem Reachable.isStaged (reachable : Reachable crowd) : crowd.IsStaged := by
  induction reachable with
  | start => nofun
  | step reachable step ih =>
      obtain ⟨move, takes⟩ := step_iff.mp step
      exact ih.takes takes

end ProvisionerCrowd

end Issuance
