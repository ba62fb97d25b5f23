import Issuance.Proofs.Crowd.Stages
import Issuance.Proofs.Provisioner.SlotStates

namespace Issuance

/-- The key of a caller that enters a slot, and the slot. -/
def Observation.entry? : Observation → Option (AuthorityKey × Nat)
  | ⟨.enterSlot key _, slot⟩ => some (key, slot)
  | _ => none

namespace CallStage

/-- The call has the task of the build in a slot. -/
def isBusy (slot : Nat) : CallStage → Bool
  | tasked other | building other _ | built other _ | broken other _ _ => other == slot
  | _ => false

/-- The call has the task of the build in a slot, or it has filled the slot. -/
def isEngaged (slot : Nat) : CallStage → Bool
  | tasked other | building other _ | built other _ | broken other _ _
  | provided other _ => other == slot
  | _ => false

/-- The marks that calls leave on a slot account for its state before and after a change. -/
structure Balances (stage later : CallStage) (cache after : ProvisionerCache) (slot : Nat) :
    Prop where
  busy : (after.isBuilding slot).toNat + (stage.isBusy slot).toNat =
    (cache.isBuilding slot).toNat + (later.isBusy slot).toNat
  engaged : (after.isOccupied slot).toNat + (stage.isEngaged slot).toNat =
    (cache.isOccupied slot).toNat + (later.isEngaged slot).toNat
  kept : ∀ provisioner, cache.held? slot = some provisioner → after.held? slot = some provisioner

variable {stage later : CallStage} {observation : Observation} {slot place : Nat}
  {key : AuthorityKey} {spec : IssuerSpec} {shared : SharedState} {cache : ProvisionerCache}
  {before state : SlotState}

open ProvisionerCache in
/-- A slot that holds nothing changes its state together with the marks of a call. -/
theorem balances_setState (found : cache.stateOf? place = some before)
    (unfilled : before.provisioner? = none)
    (busy : ∀ slot, stage.isBusy slot = (decide (before = .building) && place == slot) ∧
      later.isBusy slot = (decide (state = .building) && place == slot))
    (engaged : ∀ slot, stage.isEngaged slot = (before.isOccupied && place == slot) ∧
      later.isEngaged slot = (state.isOccupied && place == slot)) :
    Balances stage later cache (cache.setState place state) slot := by
  by_cases same : place = slot
  · subst same
    have building : cache.isBuilding place = decide (before = .building) := by
      simp [isBuilding, found]
    have occupied : cache.isOccupied place = before.isOccupied := by simp [isOccupied, found]
    constructor
    · simp [isBuilding_setState found, busy, building, Nat.add_comm]
    · simp [isOccupied_setState found, engaged, occupied, Nat.add_comm]
    · intro provisioner held
      simp [held?, found, unfilled] at held
  · have other : (place == slot) = false := by simpa using same
    constructor
    · simp [isBuilding_setState found, busy, same, other]
    · simp [isOccupied_setState found, engaged, same, other]
    · simp [held?_setState found, same]

/-- Each step of a call changes its marks as it changes the slots. -/
theorem Advance.balances (advance : Advance key spec stage observation later)
    (admitted : shared.Admits observation)
    (busy : ∀ place, stage.isBusy place = true → shared.cache.isBuilding place = true)
    (slot : Nat) : Balances stage later shared.cache (shared.after observation).cache slot := by
  cases advance with
  | enter place => constructor <;> simp [SharedState.after, isBusy, isEngaged]
  | serve place provisioner =>
      have same := (ProvisionerCache.acquire?_served admitted).2
      constructor <;> simp [SharedState.after, same, isBusy, isEngaged]
  | take place =>
      obtain ⟨empty, taken⟩ := ProvisionerCache.acquire?_tasked admitted
      simp only [SharedState.after, taken]
      apply balances_setState empty rfl
      · simp [isBusy]
      · simp [isEngaged, SlotState.isOccupied]
  | start place number => constructor <;> simp [SharedState.after, isBusy, isEngaged]
  | succeed place number => constructor <;> simp [SharedState.after, isBusy, isEngaged]
  | fail place number failure => constructor <;> simp [SharedState.after, isBusy, isEngaged]
  | fill place number =>
      have building := of_decide_eq_true (busy place (beq_self_eq_true place))
      apply balances_setState building rfl
      · simp [isBusy]
      · simp [isEngaged, SlotState.isOccupied]
  | leave place number failure =>
      have building := of_decide_eq_true (busy place (beq_self_eq_true place))
      apply balances_setState building rfl
      · simp [isBusy]
      · simp [isEngaged, SlotState.isOccupied]

/-- A call that ends well leaves its provisioner in its slot. -/
theorem Advance.held?_after (advance : Advance key spec stage observation later)
    (admitted : shared.Admits observation)
    (busy : ∀ place, stage.isBusy place = true → shared.cache.isBuilding place = true)
    {provisioner : Provisioner} (entered : later.slot? = some slot)
    (ended : later.result? key spec = some (.ok provisioner)) :
    (shared.after observation).cache.held? slot = some provisioner := by
  cases advance with
  | serve place other =>
      obtain ⟨held, same⟩ := ProvisionerCache.acquire?_served admitted
      cases entered
      cases ended
      simpa only [SharedState.after, same] using held
  | fill place number =>
      have building := of_decide_eq_true (busy place (beq_self_eq_true place))
      cases entered
      cases ended
      exact (ProvisionerCache.held?_setState building _).trans (if_pos rfl)
  | _ => cases ended

/-- A call with the task of a build has not returned. -/
theorem result?_of_isBusy (busy : stage.isBusy slot = true) : stage.result? key spec = none := by
  cases stage <;> first | rfl | cases busy

/-- A call with the task of a build got it from its slot. -/
theorem acquireSlot_mem_observed (busy : stage.isBusy slot = true) :
    ⟨.acquireSlot slot, none⟩ ∈ stage.observed key spec := by
  cases stage with
  | tasked other | building other _ | built other _ | broken other _ _ =>
      obtain rfl := beq_iff_eq.mp busy
      simp [observed, starting, entering]
  | _ => cases busy

theorem isEngaged_of_isBusy (busy : stage.isBusy slot = true) : stage.isEngaged slot = true := by
  cases stage <;> first | exact busy | cases busy

/-- A call that is engaged in a slot has entered it. -/
theorem slot?_of_isEngaged (engaged : stage.isEngaged slot = true) : stage.slot? = some slot := by
  cases stage <;> first | exact congrArg some (beq_iff_eq.mp engaged) | cases engaged

/-- A call that is engaged in a slot has the task of the build, or it has filled the slot. -/
theorem isBusy_or_provided (engaged : stage.isEngaged slot = true) :
    stage.isBusy slot = true ∨ ∃ number, stage = provided slot number := by
  cases stage with
  | provided other number =>
      exact .inr ⟨number, congrArg (provided · number) (beq_iff_eq.mp engaged)⟩
  | _ => exact .inl engaged

end CallStage

/-- A call with the task of a build has not ended. -/
theorem ProvisionerCall.IsStaged.not_isOver {call : ProvisionerCall} {slot : Nat}
    (staged : call.IsStaged) (busy : call.stage.isBusy slot = true) : ¬ call.IsOver := by
  rw [IsOver, staged.result?_eq, CallStage.result?_of_isBusy busy]
  exact Bool.false_ne_true

namespace ProvisionerCrowd

variable {crowd next : ProvisionerCrowd} {move : Move} {place slot : Nat}
  {observation : Observation} {call moved other : ProvisionerCall} {provisioner : Provisioner}

/-- A test of the calls changes its count only by the call that moves. -/
theorem countP_set {calls : List ProvisionerCall} (here : calls[place]? = some call)
    (moved : ProvisionerCall) (test : ProvisionerCall → Bool) :
    (calls.set place moved).countP test + (test call).toNat =
      calls.countP test + (test moved).toNat := by
  obtain ⟨inside, found⟩ := List.getElem?_eq_some_iff.mp here
  have counted : test call = true → 0 < calls.countP test := fun holds =>
    List.countP_pos_iff.mpr ⟨call, List.mem_of_getElem? here, holds⟩
  rw [List.countP_set inside, found]
  cases held : test call with
  | false => cases test moved <;> simp
  | true =>
    have some := counted held
    cases test moved <;> simp <;> omega

/-- In each slot as many calls have the task of a build as builds are under way, and as many have
the task or have filled the slot as it is occupied. A call that ended well left its provisioner. -/
structure IsBalanced (crowd : ProvisionerCrowd) : Prop where
  busy : ∀ slot, crowd.calls.countP (fun call => call.stage.isBusy slot) =
    (crowd.shared.cache.isBuilding slot).toNat
  engaged : ∀ slot, crowd.calls.countP (fun call => call.stage.isEngaged slot) =
    (crowd.shared.cache.isOccupied slot).toNat
  left : ∀ call ∈ crowd.calls, ∀ slot provisioner, call.stage.slot? = some slot →
    call.stage.result? call.key call.spec = some (.ok provisioner) →
      crowd.shared.cache.held? slot = some provisioner

/-- A call that has filled its slot left its provisioner there. -/
theorem IsBalanced.held? (balanced : crowd.IsBalanced) (member : call ∈ crowd.calls)
    (provided : call.stage = .provided slot provisioner.number)
    (made : provisioner = ⟨provisioner.number, call.key, call.spec⟩) :
    crowd.shared.cache.held? slot = some provisioner := by
  apply balanced.left call member slot provisioner
  · rw [provided]
    rfl
  · rw [provided, made]
    rfl

/-- A build is under way in the slot of a call that has its task. -/
theorem IsBalanced.isBuilding (balanced : crowd.IsBalanced) (member : call ∈ crowd.calls)
    (busy : call.stage.isBusy slot = true) : crowd.shared.cache.isBuilding slot = true := by
  have counted : 0 < crowd.calls.countP fun call => call.stage.isBusy slot :=
    List.countP_pos_iff.mpr ⟨call, member, busy⟩
  rw [balanced.busy] at counted
  cases under : crowd.shared.cache.isBuilding slot with
  | true => rfl
  | false => simp [under] at counted

theorem Performs.balances (performs : crowd.Performs place call moved observation next)
    (balanced : crowd.IsBalanced) (staged : crowd.IsStaged) (slot : Nat) :
    CallStage.Balances call.stage moved.stage crowd.shared.cache next.shared.cache slot := by
  have member := List.mem_of_getElem? performs.here
  rw [performs.shared]
  exact (performs.advance (staged call member)).1.balances performs.admitted
    (fun _ => balanced.isBuilding member) slot

theorem IsBalanced.performs (balanced : crowd.IsBalanced) (staged : crowd.IsStaged)
    (performs : crowd.Performs place call moved observation next) : next.IsBalanced := by
  have member := List.mem_of_getElem? performs.here
  have balances := performs.balances balanced staged
  constructor
  case busy =>
    intro slot
    have counted := countP_set performs.here moved fun call => call.stage.isBusy slot
    have before := balanced.busy slot
    have changed := (balances slot).busy
    rw [performs.calls]
    omega
  case engaged =>
    intro slot
    have counted := countP_set performs.here moved fun call => call.stage.isEngaged slot
    have before := balanced.engaged slot
    have changed := (balances slot).engaged
    rw [performs.calls]
    omega
  case left =>
    intro other present slot provisioner entered ended
    rw [performs.calls] at present
    rcases List.mem_or_eq_of_mem_set present with old | rfl
    · apply (balances slot).kept
      exact balanced.left other old slot provisioner entered ended
    · rw [performs.key, performs.spec] at ended
      rw [performs.shared]
      exact (performs.advance (staged call member)).1.held?_after performs.admitted
        (fun _ => balanced.isBuilding member) entered ended

theorem IsBalanced.takes (balanced : crowd.IsBalanced) (staged : crowd.IsStaged)
    (takes : Takes crowd move next) : next.IsBalanced := by
  cases move with
  | join key spec =>
      cases takes
      constructor
      case busy => simpa [CallStage.isBusy] using balanced.busy
      case engaged => simpa [CallStage.isEngaged] using balanced.engaged
      case left =>
        refine List.forall_mem_append.mpr ⟨balanced.left, List.forall_mem_singleton.mpr ?_⟩
        intro slot provisioner entered
        cases entered
  | perform place observation =>
      obtain ⟨call, moved, performs⟩ := takes.performs
      exact balanced.performs staged performs
  | invalidate key =>
      cases takes
      exact ⟨balanced.busy, balanced.engaged, balanced.left⟩
  | clear =>
      cases takes
      exact ⟨balanced.busy, balanced.engaged, balanced.left⟩

theorem Reachable.isBalanced (reachable : Reachable crowd) : crowd.IsBalanced := by
  induction reachable with
  | start => exact ⟨fun _ => rfl, fun _ => rfl, fun _ member => absurd member List.not_mem_nil⟩
  | step reachable step ih =>
      obtain ⟨move, takes⟩ := step_iff.mp step
      exact ih.takes reachable.isStaged takes

/-- A provisioner in a slot stays there. -/
theorem Takes.held? (takes : Takes crowd move next) (reachable : Reachable crowd)
    (held : crowd.shared.cache.held? slot = some provisioner) :
    next.shared.cache.held? slot = some provisioner := by
  cases move with
  | join key spec =>
      cases takes
      exact held
  | perform place observation =>
      obtain ⟨call, moved, performs⟩ := takes.performs
      exact (performs.balances reachable.isBalanced reachable.isStaged slot).kept provisioner held
  | invalidate key =>
      cases takes
      exact held
  | clear =>
      cases takes
      exact held

theorem Run.held? {moves : List Move} {last : ProvisionerCrowd} (run : Run crowd moves last)
    (reachable : Reachable crowd) (held : crowd.shared.cache.held? slot = some provisioner) :
    last.shared.cache.held? slot = some provisioner := by
  induction run with
  | start => exact held
  | move run takes ih => exact takes.held? (run.reachable reachable) ih

/-- At most one call is engaged in a slot. -/
theorem Reachable.countP_isEngaged_le_one (reachable : Reachable crowd) (slot : Nat) :
    crowd.calls.countP (fun call => call.stage.isEngaged slot) ≤ 1 := by
  rw [reachable.isBalanced.engaged]
  exact Bool.toNat_le _

/-- A provisioner that a call has returned is in the slot of the call. -/
theorem Reachable.exists_held (reachable : Reachable crowd) (member : call ∈ crowd.calls)
    (ended : call.result? = some (.ok provisioner)) :
    ∃ slot, call.stage.slot? = some slot ∧ crowd.shared.cache.held? slot = some provisioner := by
  have left := reachable.isBalanced.left call member
  rw [(reachable.isStaged call member).result?_eq] at ended
  cases stage : call.stage with
  | served slot given =>
      rw [stage] at ended left
      exact ⟨slot, rfl, left slot provisioner rfl ended⟩
  | provided slot number =>
      rw [stage] at ended left
      exact ⟨slot, rfl, left slot provisioner rfl ended⟩
  | _ =>
      rw [stage] at ended
      cases ended

/-- Two calls that are engaged in one slot are the same. -/
theorem Reachable.eq_of_isEngaged (reachable : Reachable crowd) (member : call ∈ crowd.calls)
    (present : other ∈ crowd.calls) (engaged : call.stage.isEngaged slot = true)
    (also : other.stage.isEngaged slot = true) : call = other := by
  have counted := reachable.countP_isEngaged_le_one slot
  have first : call ∈ crowd.calls.filter fun call => call.stage.isEngaged slot :=
    List.mem_filter.mpr ⟨member, engaged⟩
  have second : other ∈ crowd.calls.filter fun call => call.stage.isEngaged slot :=
    List.mem_filter.mpr ⟨present, also⟩
  rw [List.countP_eq_length_filter] at counted
  obtain ⟨only, single⟩ := List.length_eq_one_iff.mp
    (Nat.le_antisymm counted (List.length_pos_of_mem first))
  rw [single, List.mem_singleton] at first second
  exact first.trans second.symm

/-- No slot holds a provisioner while a call has the task to build one for it. -/
theorem Reachable.held?_of_isBusy (reachable : Reachable crowd) (member : call ∈ crowd.calls)
    (busy : call.stage.isBusy slot = true) : crowd.shared.cache.held? slot = none :=
  ProvisionerCache.held?_eq_none_of_isBuilding (reachable.isBalanced.isBuilding member busy)

/-- What a slot holds was built by one of the calls that entered the slot. -/
theorem Reachable.exists_provided (reachable : Reachable crowd)
    (held : crowd.shared.cache.held? slot = some provisioner) :
    ∃ call ∈ crowd.calls, call.stage = .provided slot provisioner.number ∧
      provisioner = ⟨provisioner.number, call.key, call.spec⟩ := by
  have balanced := reachable.isBalanced
  have counted : 0 < crowd.calls.countP fun call => call.stage.isEngaged slot := by
    rw [balanced.engaged, (ProvisionerCache.isOccupied_of_held? held).1]
    exact Nat.one_pos
  obtain ⟨call, member, engaged⟩ := List.countP_pos_iff.mp counted
  rcases CallStage.isBusy_or_provided engaged with busy | ⟨number, provided⟩
  · rw [reachable.held?_of_isBusy member busy] at held
    cases held
  · have left : crowd.shared.cache.held? slot = some ⟨number, call.key, call.spec⟩ :=
      balanced.held? member provided rfl
    obtain rfl := Option.some.inj (left.symm.trans held)
    exact ⟨call, member, provided, rfl⟩

/-- A build is under way in a slot only as the task of a call. -/
theorem Reachable.exists_isBusy (reachable : Reachable crowd)
    (building : crowd.shared.cache.isBuilding slot = true) :
    ∃ call ∈ crowd.calls, call.stage.isBusy slot = true := by
  apply List.countP_pos_iff.mp
  rw [reachable.isBalanced.busy, building]
  exact Nat.one_pos

/-- The slot that a call has entered is made for its key and its specification. -/
theorem Reachable.offers (reachable : Reachable crowd) (member : call ∈ crowd.calls)
    (entered : call.stage.slot? = some slot) :
    crowd.shared.cache.Offers slot call.key call.spec := by
  have seen : ⟨.enterSlot call.key call.spec, slot⟩ ∈ call.observed := by
    rw [(reachable.isStaged call member).observed]
    exact CallStage.enterSlot_mem_observed entered
  exact (reachable.isSound.calls call member).holds _ seen

/-- A call enters its slot, or it leaves every slot in its place. -/
theorem Performs.enters_or_stays (performs : crowd.Performs place call moved observation next)
    (staged : call.IsStaged) :
    (∃ slot, observation = ⟨.enterSlot call.key call.spec, slot⟩ ∧ call.stage.slot? = none ∧
        moved.stage.slot? = some slot ∧ slot = (crowd.shared.cache.enter call.key call.spec).1 ∧
        next.shared.cache = (crowd.shared.cache.enter call.key call.spec).2) ∨
      observation.entry? = none ∧
        moved.stage.slot? = call.stage.slot? ∧
        crowd.shared.cache.SameSlots next.shared.cache := by
  have admitted := performs.admitted
  have advance := (performs.advance staged).1
  rw [performs.shared]
  generalize call.stage = early at advance ⊢
  generalize moved.stage = late at advance ⊢
  cases advance with
  | enter slot => exact .inl ⟨slot, rfl, rfl, rfl, admitted, rfl⟩
  | serve slot provisioner =>
      have same := (ProvisionerCache.acquire?_served admitted).2
      refine .inr ⟨rfl, rfl, ?_⟩
      simp only [SharedState.after, same]
      exact .refl _
  | take slot =>
      have taken := (ProvisionerCache.acquire?_tasked admitted).2
      refine .inr ⟨rfl, rfl, ?_⟩
      simp only [SharedState.after, taken]
      exact ProvisionerCache.sameSlots_setState slot _
  | start slot number => exact .inr ⟨rfl, rfl, .refl _⟩
  | succeed slot number => exact .inr ⟨rfl, rfl, .refl _⟩
  | fail slot number failure => exact .inr ⟨rfl, rfl, .refl _⟩
  | fill slot number => exact .inr ⟨rfl, rfl, ProvisionerCache.sameSlots_setState slot _⟩
  | leave slot number failure => exact .inr ⟨rfl, rfl, ProvisionerCache.sameSlots_setState slot _⟩

/-- The slots only become more. -/
theorem Takes.length_slots (takes : Takes crowd move next) (staged : crowd.IsStaged) :
    crowd.shared.cache.slots.length ≤ next.shared.cache.slots.length := by
  cases move with
  | join key spec =>
      cases takes
      exact Nat.le_refl _
  | perform place observation =>
      obtain ⟨call, moved, performs⟩ := takes.performs
      rcases performs.enters_or_stays (staged call (List.mem_of_getElem? performs.here)) with
        ⟨slot, _, _, _, _, entered⟩ | ⟨_, _, same⟩
      · rw [entered]
        exact ProvisionerCache.length_slots_enter
      · exact Nat.le_of_eq same.length.symm
  | invalidate key =>
      cases takes
      exact Nat.le_refl _
  | clear =>
      cases takes
      exact Nat.le_refl _

theorem Run.length_slots {moves : List Move} {last : ProvisionerCrowd} (run : Run crowd moves last)
    (reachable : Reachable crowd) :
    crowd.shared.cache.slots.length ≤ last.shared.cache.slots.length := by
  induction run with
  | start => exact Nat.le_refl _
  | move run takes ih =>
      exact Nat.le_trans ih (takes.length_slots (run.reachable reachable).isStaged)

end ProvisionerCrowd

end Issuance
