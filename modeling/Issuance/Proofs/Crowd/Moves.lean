import Issuance.Proofs.Crowd.ProvisionerCalls

namespace Issuance

namespace ProvisionerCall

def result? (call : ProvisionerCall) : Option (Except ProvisionerFailure Provisioner) :=
  match call.rest with
  | .pure result => some result
  | .perform _ _ => none

def IsOver (call : ProvisionerCall) : Prop := call.result?.isSome = true

end ProvisionerCall

namespace ProvisionerCrowd

/-- What happens in one step. The calls have places in the order in which they joined. -/
inductive Move where
  | join (key : AuthorityKey) (spec : IssuerSpec)
  | perform (place : Nat) (observation : Observation)
  | invalidate (key : AuthorityKey)
  | clear

/-- A crowd takes a move to another one. -/
inductive Takes : ProvisionerCrowd → Move → ProvisionerCrowd → Prop where
  | join (shared : SharedState) (calls : List ProvisionerCall) (key : AuthorityKey)
      (spec : IssuerSpec) :
      Takes ⟨shared, calls⟩ (.join key spec)
        ⟨shared, calls ++ [⟨key, spec, [], Reconcile.provisionerFor key spec⟩]⟩
  | perform {shared : SharedState} {earlier later : List ProvisionerCall} {key : AuthorityKey}
      {spec : IssuerSpec} {observed : List Observation} {effect : Effect}
      {next : effect.Answer → Program (Except ProvisionerFailure Provisioner)}
      (answer : effect.Answer) (admitted : shared.Admits ⟨effect, answer⟩) :
      Takes ⟨shared, earlier ++ ⟨key, spec, observed, .perform effect next⟩ :: later⟩
        (.perform earlier.length ⟨effect, answer⟩)
        ⟨shared.after ⟨effect, answer⟩,
          earlier ++ ⟨key, spec, observed ++ [⟨effect, answer⟩], next answer⟩ :: later⟩
  | invalidate (shared : SharedState) (calls : List ProvisionerCall) (key : AuthorityKey) :
      Takes ⟨shared, calls⟩ (.invalidate key)
        ⟨{ shared with cache := shared.cache.invalidate key }, calls⟩
  | clear (shared : SharedState) (calls : List ProvisionerCall) :
      Takes ⟨shared, calls⟩ .clear ⟨{ shared with cache := shared.cache.clear }, calls⟩

/-- A run takes some moves, one after the other. -/
inductive Run (first : ProvisionerCrowd) : List Move → ProvisionerCrowd → Prop where
  | start : Run first [] first
  | move {moves : List Move} {current next : ProvisionerCrowd} {move : Move}
      (run : Run first moves current) (takes : Takes current move next) :
      Run first (moves ++ [move]) next

variable {first current last next : ProvisionerCrowd} {moves before after : List Move} {move : Move}

/-- The steps are exactly the moves. -/
theorem step_iff : Step current next ↔ ∃ move, Takes current move next := by
  constructor
  · intro step
    cases step with
    | join shared calls key spec => exact ⟨_, .join shared calls key spec⟩
    | perform answer admitted => exact ⟨_, .perform answer admitted⟩
    | invalidate shared calls key => exact ⟨_, .invalidate shared calls key⟩
    | clear shared calls => exact ⟨_, .clear shared calls⟩
  · rintro ⟨move, takes⟩
    cases takes with
    | join shared calls key spec => exact .join shared calls key spec
    | perform answer admitted => exact .perform answer admitted
    | invalidate shared calls key => exact .invalidate shared calls key
    | clear shared calls => exact .clear shared calls

theorem Run.reachable (run : Run first moves last) (reachable : Reachable first) :
    Reachable last := by
  induction run with
  | start => exact reachable
  | move run takes ih => exact ih.step (step_iff.mpr ⟨_, takes⟩)

/-- A call may go on for a while, and the others wait. -/
theorem Run.goesOn {shared : SharedState} {key : AuthorityKey} {spec : IssuerSpec}
    {observed : List Observation} {program rest : Program (Except ProvisionerFailure Provisioner)}
    (earlier later : List ProvisionerCall) (trace : List Observation)
    (run : Run first moves ⟨shared, earlier ++ ⟨key, spec, observed, program⟩ :: later⟩)
    (goesOn : program.GoesOn trace rest) (admitted : shared.AdmitsAll trace) :
    Run first (moves ++ trace.map (.perform earlier.length))
      ⟨shared.afterAll trace, earlier ++ ⟨key, spec, observed ++ trace, rest⟩ :: later⟩ := by
  induction goesOn generalizing shared observed moves with
  | refl program => simpa using run
  | perform answer goesOn ih =>
      have further := ih (run.move (.perform answer admitted.1)) admitted.2
      simpa using further

/-- A run stops at any of its moves. -/
theorem Run.split (run : Run first moves last) {before after : List Move}
    (split : moves = before ++ after) :
    ∃ middle, Run first before middle ∧ Run middle after last := by
  induction run generalizing after with
  | start =>
      obtain ⟨rfl, rfl⟩ := List.nil_eq_append_iff.mp split
      exact ⟨first, .start, .start⟩
  | move run takes ih =>
      rcases List.eq_nil_or_concat after with rfl | ⟨between, move, rfl⟩
      · rw [List.append_nil] at split
        subst split
        exact ⟨_, run.move takes, .start⟩
      · rw [List.concat_eq_append, ← List.append_assoc] at split
        obtain ⟨rfl, same⟩ := List.append_inj' split rfl
        obtain rfl := List.head_eq_of_cons_eq same
        obtain ⟨middle, early, late⟩ := ih rfl
        rw [List.concat_eq_append]
        exact ⟨middle, early, late.move takes⟩

/-- A run passes through a move. -/
theorem Run.split_at (run : Run first moves last) (split : moves = before ++ move :: after) :
    ∃ current next, Run first before current ∧ Takes current move next ∧ Run next after last := by
  obtain ⟨next, early, late⟩ := run.split (split.trans (List.append_cons before move after))
  generalize taken : before ++ [move] = moves at early
  cases early with
  | start => simp at taken
  | move early takes =>
    obtain ⟨rfl, same⟩ := List.append_inj' taken rfl
    obtain rfl := List.head_eq_of_cons_eq same
    exact ⟨_, next, early, takes, late⟩

/-- The call at a place performs its next effect, and the others wait. -/
structure Performs (current : ProvisionerCrowd) (place : Nat) (call moved : ProvisionerCall)
    (observation : Observation) (next : ProvisionerCrowd) : Prop where
  here : current.calls[place]? = some call
  calls : next.calls = current.calls.set place moved
  shared : next.shared = current.shared.after observation
  admitted : current.shared.Admits observation
  key : moved.key = call.key
  spec : moved.spec = call.spec
  observed : moved.observed = call.observed ++ [observation]
  goesOn : ∃ rest, call.rest = .perform observation.effect rest ∧
    moved.rest = rest observation.answer

variable {place : Nat} {call moved : ProvisionerCall} {observation : Observation}

theorem Takes.performs (takes : Takes current (.perform place observation) next) :
    ∃ call moved, Performs current place call moved observation next := by
  cases takes with
  | @perform shared earlier later key spec observed effect rest answer admitted =>
    refine ⟨⟨key, spec, observed, .perform effect rest⟩,
      ⟨key, spec, observed ++ [⟨effect, answer⟩], rest answer⟩, ?_⟩
    exact ⟨by simp, by simp, rfl, admitted, rfl, rfl, rfl, rest, rfl, rfl⟩

/-- A call that goes on has not ended. -/
theorem Performs.not_isOver (performs : Performs current place call moved observation next) :
    ¬ call.IsOver := by
  obtain ⟨rest, going, _⟩ := performs.goesOn
  simp [ProvisionerCall.IsOver, ProvisionerCall.result?, going]

/-- The call at a place stays there with its key and its specification. -/
theorem Takes.exists_call (takes : Takes current move next)
    (here : current.calls[place]? = some call) :
    ∃ later, next.calls[place]? = some later ∧ later.key = call.key ∧ later.spec = call.spec := by
  have inside : place < current.calls.length := (List.getElem?_eq_some_iff.mp here).1
  cases move with
  | join key spec =>
      cases takes
      exact ⟨call, (List.getElem?_append_left inside).trans here, rfl, rfl⟩
  | perform other observation =>
      obtain ⟨waiting, moved, performs⟩ := takes.performs
      rw [performs.calls]
      by_cases same : other = place
      · subst same
        obtain rfl := Option.some.inj (performs.here.symm.trans here)
        exact ⟨moved, List.getElem?_set_self inside, performs.key, performs.spec⟩
      · exact ⟨call, (List.getElem?_set_ne same).trans here, rfl, rfl⟩
  | invalidate key =>
      cases takes
      exact ⟨call, here, rfl, rfl⟩
  | clear =>
      cases takes
      exact ⟨call, here, rfl, rfl⟩

theorem Run.exists_call (run : Run first moves last) (here : first.calls[place]? = some call) :
    ∃ later, last.calls[place]? = some later ∧ later.key = call.key ∧ later.spec = call.spec := by
  induction run with
  | start => exact ⟨call, here, rfl, rfl⟩
  | move run takes ih =>
      obtain ⟨between, there, sameKey, sameSpec⟩ := ih
      obtain ⟨later, found, key, spec⟩ := takes.exists_call there
      exact ⟨later, found, key.trans sameKey, spec.trans sameSpec⟩

/-- What the call at a place has observed. -/
def record (crowd : ProvisionerCrowd) (place : Nat) : List Observation :=
  ((crowd.calls[place]?).map ProvisionerCall.observed).getD []

/-- What a move lets the call at a place observe. -/
def Move.observation? (place : Nat) : Move → Option Observation
  | perform other observation => if other = place then some observation else none
  | _ => none

theorem record_of_getElem? (here : current.calls[place]? = some call) :
    current.record place = call.observed := by
  rw [record, here]
  rfl

theorem Takes.record (takes : Takes current move next) (place : Nat) :
    next.record place = current.record place ++ (move.observation? place).toList := by
  cases move with
  | join key spec =>
      cases takes with
      | join shared calls =>
        rcases Nat.lt_trichotomy place calls.length with inside | rfl | outside
        · simp [ProvisionerCrowd.record, List.getElem?_append_left inside, Move.observation?]
        · simp [ProvisionerCrowd.record, Move.observation?]
        · have beyond : (calls ++ [ProvisionerCall.mk key spec []
              (Reconcile.provisionerFor key spec)]).length ≤ place := by
            rw [List.length_append]
            exact outside
          simp only [ProvisionerCrowd.record, List.getElem?_eq_none beyond,
            List.getElem?_eq_none (Nat.le_of_lt outside)]
          rfl
  | perform other observation =>
      obtain ⟨call, moved, performs⟩ := takes.performs
      have inside := (List.getElem?_eq_some_iff.mp performs.here).1
      by_cases same : other = place
      · subst same
        have there : next.calls[other]? = some moved := by
          rw [performs.calls, List.getElem?_set_self inside]
        rw [record_of_getElem? performs.here, record_of_getElem? there, performs.observed]
        simp [Move.observation?]
      · simp [ProvisionerCrowd.record, performs.calls, List.getElem?_set_ne same,
          Move.observation?, same]
  | invalidate key =>
      cases takes
      exact (List.append_nil _).symm
  | clear =>
      cases takes
      exact (List.append_nil _).symm

/-- In a run the call at a place observes what it performs, in this order. -/
theorem Run.record (run : Run first moves last) (place : Nat) :
    last.record place = first.record place ++ moves.filterMap (Move.observation? place) := by
  induction run with
  | start => exact (List.append_nil _).symm
  | @move moves current next move run takes ih =>
      rw [takes.record, ih, List.append_assoc, List.filterMap_append]
      cases step : move.observation? place <;> simp [step]

theorem mem_observations :
    observation ∈ moves.filterMap (Move.observation? place) ↔
      .perform place observation ∈ moves := by
  rw [List.mem_filterMap]
  constructor
  · rintro ⟨move, member, same⟩
    cases move with
    | perform other seen =>
        obtain ⟨rfl, rfl⟩ : other = place ∧ seen = observation := by
          simpa [Move.observation?] using same
        exact member
    | _ => cases same
  · intro member
    exact ⟨_, member, if_pos rfl⟩

/-- From the start on, all that a call has observed was performed by it. -/
theorem Run.mem_observed (run : Run ⟨{}, []⟩ moves last) (here : last.calls[place]? = some call) :
    observation ∈ call.observed ↔ .perform place observation ∈ moves := by
  rw [← record_of_getElem? here, run.record, ← mem_observations]
  simp [ProvisionerCrowd.record]

/-- What was performed in a run was observed by a call. -/
theorem Run.exists_observed (run : Run first moves last)
    (performed : .perform place observation ∈ moves) :
    ∃ call, last.calls[place]? = some call ∧ observation ∈ call.observed := by
  have member : observation ∈ last.record place := by
    rw [run.record]
    exact List.mem_append_right _ (mem_observations.mpr performed)
  unfold ProvisionerCrowd.record at member
  cases here : last.calls[place]? with
  | none => simp [here] at member
  | some call =>
    rw [here] at member
    exact ⟨call, rfl, member⟩

end ProvisionerCrowd

end Issuance
