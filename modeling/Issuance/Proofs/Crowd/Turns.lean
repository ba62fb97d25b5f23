import Issuance.Proofs.Crowd.ProvisionerCalls
import Issuance.Proofs.Reconcile.Writes

namespace Issuance

/-- Every program can end. -/
theorem Program.exists_returns {α : Type} (program : Program α) :
    ∃ trace value, program.Returns trace value := by
  induction program with
  | pure value => exact ⟨[], value, .pure value⟩
  | perform effect next ih =>
      obtain ⟨answer⟩ : Nonempty effect.Answer := by
        cases effect <;> exact ⟨default⟩
      obtain ⟨trace, value, returns⟩ := ih answer
      exact ⟨⟨effect, answer⟩ :: trace, value, .perform answer returns⟩

/-- A program that ends goes on to any point on its way. -/
theorem Program.Returns.goesOn {α : Type} {first second : List Observation} {value : α} :
    ∀ {program : Program α}, program.Returns (first ++ second) value →
      ∃ rest, program.GoesOn first rest ∧ rest.Returns second value := by
  induction first with
  | nil => exact fun returns => ⟨_, .refl _, returns⟩
  | cons observation first ih =>
      intro program returns
      cases returns with
      | perform answer continued =>
        obtain ⟨rest, goesOn, returned⟩ := ih continued
        exact ⟨rest, .perform answer goesOn, returned⟩

theorem Program.Returns.goesOn_pure {α : Type} {program : Program α} {trace : List Observation}
    {value : α} (returns : program.Returns trace value) : program.GoesOn trace (.pure value) := by
  induction returns with
  | pure value => exact .refl _
  | perform answer rest ih => exact .perform answer ih

namespace Crowd

/-- What happens in one step. The callers have numbers in the order in which they stand. -/
inductive Move where
  | join (place : ResourceName)
  | perform (number : Nat) (observation : Observation)
  | change (cluster : Cluster)
  | invalidate (key : AuthorityKey)
  | clear
  | abandon (number slot : Nat)

/-- A crowd takes a move to another one. -/
inductive Takes (config : ControllerConfig) : Crowd → Move → Crowd → Prop where
  | join (shared : SharedState) (callers : List Caller) (place : ResourceName) :
      Takes config ⟨shared, callers⟩ (.join place)
        ⟨shared, ⟨place, [], Reconcile.reconcile config place.namespaceName place.name⟩ :: callers⟩
  | perform {shared : SharedState} {earlier later : List Caller} {place : ResourceName}
      {observed : List Observation} {effect : Effect}
      {next : effect.Answer → Program Reconcile.Outcome} (answer : effect.Answer)
      (admitted : shared.Admits ⟨effect, answer⟩) :
      Takes config ⟨shared, earlier ++ ⟨place, observed, .perform effect next⟩ :: later⟩
        (.perform earlier.length ⟨effect, answer⟩)
        ⟨shared.after ⟨effect, answer⟩,
          earlier ++ ⟨place, observed ++ [⟨effect, answer⟩], next answer⟩ :: later⟩
  | change (shared : SharedState) (callers : List Caller) (cluster : Cluster) :
      Takes config ⟨shared, callers⟩ (.change cluster) ⟨{ shared with cluster }, callers⟩
  | invalidate (shared : SharedState) (callers : List Caller) (key : AuthorityKey) :
      Takes config ⟨shared, callers⟩ (.invalidate key)
        ⟨{ shared with cache := shared.cache.invalidate key }, callers⟩
  | clear (shared : SharedState) (callers : List Caller) :
      Takes config ⟨shared, callers⟩ .clear ⟨{ shared with cache := shared.cache.clear }, callers⟩
  | abandon (shared : SharedState) (earlier later : List Caller) (caller : Caller) (slot : Nat) :
      Takes config ⟨shared, earlier ++ caller :: later⟩ (.abandon earlier.length slot)
        ⟨{ shared with cache := shared.cache.settle slot none }, earlier ++ later⟩

/-- A run takes some moves, one after the other. -/
inductive Run (config : ControllerConfig) (first : Crowd) : List Move → Crowd → Prop where
  | start : Run config first [] first
  | move {moves : List Move} {current next : Crowd} {move : Move}
      (run : Run config first moves current) (takes : Takes config current move next) :
      Run config first (moves ++ [move]) next

variable {config : ControllerConfig} {first current last next : Crowd} {moves : List Move}
  {move : Move}

/-- The steps are exactly the moves. -/
theorem step_iff : Step config current next ↔ ∃ move, Takes config current move next := by
  constructor
  · intro step
    cases step with
    | join shared callers place => exact ⟨_, .join shared callers place⟩
    | perform answer admitted => exact ⟨_, .perform answer admitted⟩
    | change shared callers cluster => exact ⟨_, .change shared callers cluster⟩
    | invalidate shared callers key => exact ⟨_, .invalidate shared callers key⟩
    | clear shared callers => exact ⟨_, .clear shared callers⟩
    | abandon shared earlier later caller slot =>
      exact ⟨_, .abandon shared earlier later caller slot⟩
  · rintro ⟨move, takes⟩
    cases takes with
    | join shared callers place => exact .join shared callers place
    | perform answer admitted => exact .perform answer admitted
    | change shared callers cluster => exact .change shared callers cluster
    | invalidate shared callers key => exact .invalidate shared callers key
    | clear shared callers => exact .clear shared callers
    | abandon shared earlier later caller slot =>
      exact .abandon shared earlier later caller slot

theorem Run.reachable (run : Run config first moves last) (reachable : Reachable config first) :
    Reachable config last := by
  induction run with
  | start => exact reachable
  | move run takes ih => exact ih.step (step_iff.mpr ⟨_, takes⟩)

/-- A reconciliation may go on for a while, and the others wait. -/
theorem Run.goesOn {shared : SharedState} {place : ResourceName} {observed : List Observation}
    {program rest : Program Reconcile.Outcome} (earlier later : List Caller)
    (trace : List Observation)
    (run : Run config first moves ⟨shared, earlier ++ ⟨place, observed, program⟩ :: later⟩)
    (goesOn : program.GoesOn trace rest) (admitted : shared.AdmitsAll trace) :
    Run config first (moves ++ trace.map (.perform earlier.length))
      ⟨shared.afterAll trace, earlier ++ ⟨place, observed ++ trace, rest⟩ :: later⟩ := by
  induction goesOn generalizing shared observed moves with
  | refl program => simpa using run
  | perform answer goesOn ih =>
      have further := ih (run.move (.perform answer admitted.1)) admitted.2
      simpa using further

end Crowd

namespace Reconcile

variable {config : ControllerConfig} {namespaceName name : String} {trace : List Observation}
  {outcome : Outcome}

/-- A transcript with more than one observation goes on with a request that is not settled. -/
theorem Transcript.suits {first : Observation} {rest : List Observation}
    (transcript : Transcript config namespaceName name (first :: rest) outcome)
    {observation : Observation} (member : observation ∈ rest) :
    ∃ request, first = ⟨.readRequest namespaceName name, .ok (some request)⟩ ∧
      isSettled request = false ∧ observation.Suits request := by
  cases transcript with
  | unread reason => cases member
  | absent => cases member
  | idle settled => cases member
  | @active request _ _ unsettled proceeds =>
    exact ⟨request, rfl, unsettled, proceeds.suits observation member⟩

/-- A transcript starts with the read of its request. -/
theorem Transcript.exists_read {first : Observation} {rest : List Observation}
    (transcript : Transcript config namespaceName name (first :: rest) outcome) :
    ∃ answer, first = ⟨.readRequest namespaceName name, answer⟩ := by
  cases transcript with
  | unread reason => exact ⟨.error reason, rfl⟩
  | absent => exact ⟨.ok none, rfl⟩
  | @idle request settled => exact ⟨.ok (some request), rfl⟩
  | @active request _ _ unsettled proceeds => exact ⟨.ok (some request), rfl⟩

end Reconcile

namespace Caller

/-- However a caller goes on, all that it observes is the transcript of one reconciliation. -/
def Transcribes (config : ControllerConfig) (caller : Caller) : Prop :=
  ∀ trace outcome, caller.rest.Returns trace outcome →
    Reconcile.Transcript config caller.place.namespaceName caller.place.name
      (caller.observed ++ trace) outcome

variable {config : ControllerConfig} {place : ResourceName} {observed : List Observation}
  {effect : Effect} {next : effect.Answer → Program Reconcile.Outcome}

theorem transcribes_join (config : ControllerConfig) (place : ResourceName) :
    Transcribes config
      ⟨place, [], Reconcile.reconcile config place.namespaceName place.name⟩ :=
  fun _ _ returns => Reconcile.returns_reconcile.mp returns

section Perform

variable (transcribes : Transcribes config ⟨place, observed, .perform effect next⟩)
  (answer : effect.Answer)

include transcribes

theorem Transcribes.perform :
    Transcribes config ⟨place, observed ++ [⟨effect, answer⟩], next answer⟩ := by
  intro trace outcome returns
  rw [List.append_assoc]
  exact transcribes _ outcome (.perform answer returns)

/-- A caller reads its request first. What it does later suits the request that it has read, which
is not settled. -/
theorem Transcribes.reads_or_suits :
    (observed = [] ∧ effect = .readRequest place.namespaceName place.name) ∨
      ∃ request,
        ⟨.readRequest place.namespaceName place.name, .ok (some request)⟩ ∈ observed ∧
          Reconcile.isSettled request = false ∧ Observation.Suits request ⟨effect, answer⟩ := by
  obtain ⟨trace, outcome, returns⟩ := (next answer).exists_returns
  have transcript := transcribes _ outcome (.perform answer returns)
  cases observed with
  | nil =>
      obtain ⟨_, same⟩ := transcript.exists_read
      exact .inl ⟨rfl, congrArg Observation.effect same⟩
  | cons read observed =>
      have member : ⟨effect, answer⟩ ∈ observed ++ ⟨effect, answer⟩ :: trace :=
        List.mem_append_right _ List.mem_cons_self
      obtain ⟨request, head, unsettled, suits⟩ := transcript.suits member
      exact .inr ⟨request, List.mem_cons.mpr (.inl head.symm), unsettled, suits⟩

/-- A caller writes only the request that it has read. -/
theorem Transcribes.exists_copy {name : ResourceName}
    (targeted : Observation.target? ⟨effect, answer⟩ = some name) :
    ∃ request, ⟨.readRequest place.namespaceName place.name, .ok (some request)⟩ ∈ observed ∧
      Reconcile.isSettled request = false ∧ request.metadata.resourceName = name := by
  rcases transcribes.reads_or_suits answer with ⟨_, rfl⟩ | ⟨request, read, unsettled, suits⟩
  · cases targeted
  · refine ⟨request, read, unsettled, ?_⟩
    rcases suits.target? with untargeted | own
    · cases untargeted.symm.trans targeted
    · exact Option.some.inj (own.symm.trans targeted)

end Perform

end Caller

namespace Crowd

variable {config : ControllerConfig} {crowd next : Crowd}

/-- Every caller keeps to the transcript of its reconciliation. -/
theorem Reachable.transcribes (reachable : Reachable config crowd) :
    ∀ caller ∈ crowd.callers, caller.Transcribes config := by
  induction reachable with
  | start => nofun
  | step reachable step ih =>
      cases step with
      | join shared callers place =>
        exact List.forall_mem_cons.mpr ⟨Caller.transcribes_join config place, ih⟩
      | perform answer admitted =>
        obtain ⟨before, behind⟩ := List.forall_mem_append.mp ih
        obtain ⟨acting, after⟩ := List.forall_mem_cons.mp behind
        exact List.forall_mem_append.mpr
          ⟨before, List.forall_mem_cons.mpr ⟨acting.perform answer, after⟩⟩
      | change => exact ih
      | invalidate => exact ih
      | clear => exact ih
      | abandon shared earlier later caller slot =>
        obtain ⟨before, behind⟩ := List.forall_mem_append.mp ih
        exact List.forall_mem_append.mpr ⟨before, (List.forall_mem_cons.mp behind).2⟩

end Crowd

end Issuance
