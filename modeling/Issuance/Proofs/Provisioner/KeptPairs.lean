import Issuance.Proofs.Program.SharedState
import Issuance.Proofs.Provisioner.SlotStates
import Issuance.Proofs.Reconcile.Transcript

namespace Issuance

/-- The state in which a build leaves its slot. -/
def SlotState.ofBuild : Option Provisioner → SlotState
  | none => .empty
  | some provisioner => .ready provisioner

namespace ProvisionerCache

/-- The state of the slot that fits a key with a specification. -/
def stateFor? (cache : ProvisionerCache) (key : AuthorityKey) (spec : IssuerSpec) :
    Option SlotState :=
  (cache.matching? key spec).bind cache.stateOf?

/-- The cache keeps a provisioner for a key with a specification. -/
def isKept (cache : ProvisionerCache) (key : AuthorityKey) (spec : IssuerSpec) : Bool :=
  ((cache.stateFor? key spec).bind SlotState.provisioner?).isSome

variable {cache later : ProvisionerCache} {number : Nat} {key wanted : AuthorityKey}
  {spec made : IssuerSpec} {built : List Provisioner} {before : SlotState}

theorem isFree_iff : cache.IsFree key spec ↔ cache.stateFor? key spec ≠ some .building := by
  simp only [IsFree, stateFor?, ne_eq, Option.bind_eq_some_iff, stateOf?_eq_some]
  constructor
  · rintro free ⟨number, matched, slot, found, building⟩
    exact free number slot matched found building
  · rintro free number slot matched found building
    exact free ⟨number, matched, slot, found, building⟩

/-- The slot that a caller enters fits no other specification. -/
theorem matching?_enter_self (cache : ProvisionerCache) (key : AuthorityKey)
    (spec other : IssuerSpec) :
    (cache.enter key spec).2.matching? key other =
      if other = spec then some (cache.enter key spec).1 else none := by
  have entered := cache.matching?_enter key spec
  by_cases same : other = spec
  · rw [if_pos same, same, entered]
  · rw [if_neg same]
    refine Option.eq_none_iff_forall_ne_some.mpr fun number matched => ?_
    obtain ⟨current, slot, found, rfl⟩ := matching?_eq_some.mp matched
    obtain ⟨registered, made, there, rfl⟩ := matching?_eq_some.mp entered
    obtain rfl := Option.some.inj (current.symm.trans registered)
    obtain rfl := Option.some.inj (found.symm.trans there)
    exact same rfl

/-- What is kept for a key with a specification is in the slot that a caller enters. -/
theorem isKept_eq_held?_enter (cache : ProvisionerCache) (key : AuthorityKey) (spec : IssuerSpec) :
    cache.isKept key spec =
      ((cache.enter key spec).2.held? (cache.enter key spec).1).isSome := by
  unfold isKept stateFor?
  cases matched : cache.matching? key spec with
  | some number => simp [enter, matched, held?]
  | none => simp [enter, matched, held?, stateOf?, SlotState.provisioner?]

/-- A slot fits one key only. -/
theorem IsSound.key_of_matching? (sound : cache.IsSound built)
    (matched : cache.matching? key spec = some number)
    (other : cache.matching? wanted made = some number) : wanted = key :=
  ((sound.matching?_eq_some.mp matched).2.unique (sound.matching?_eq_some.mp other).2).1

/-- A slot that fits is there. -/
theorem stateOf?_ne_none (matched : cache.matching? key spec = some number) :
    cache.stateOf? number ≠ none := by
  obtain ⟨slot, found, _⟩ := exists_slot_of_matching? matched
  simp [stateOf?, found]

/-- A caller of a key that enters its slot and changes nothing but the state of the slot decides
about its key, and the other keys keep what they have. -/
theorem IsSound.stateFor?_of_sameSlots (sound : cache.IsSound built)
    (same : (cache.enter key spec).2.SameSlots later)
    (others : ∀ number ≠ (cache.enter key spec).1,
      later.stateOf? number = (cache.enter key spec).2.stateOf? number)
    (wanted : AuthorityKey) (made : IssuerSpec) :
    later.stateFor? wanted made =
      if wanted = key then
        if made = spec then later.stateOf? (cache.enter key spec).1 else none
      else cache.stateFor? wanted made := by
  unfold stateFor?
  rw [same.matching?]
  by_cases own : wanted = key
  · subst own
    rw [if_pos rfl, matching?_enter_self]
    split <;> rfl
  · rw [if_neg own, sound.matching?_enter_of_ne own]
    cases matched : cache.matching? wanted made with
    | none => rfl
    | some number =>
      have elsewhere : number ≠ (cache.enter key spec).1 := by
        rintro rfl
        have still := (sound.matching?_enter_of_ne own spec).trans matched
        exact own ((sound.enter key spec).key_of_matching? (cache.matching?_enter key spec) still)
      have kept := (cache.stateOf?_enter key spec number).resolve_right
        fun fresh => stateOf?_ne_none matched fresh.1
      exact (others number elsewhere).trans kept

/-- A build that is over leaves its slot with its result, and the other slots as they were. -/
theorem stateOf?_settle (found : cache.stateOf? number = some before)
    (built : Option Provisioner) (other : Nat) :
    ((cache.setState number .building).settle number built).stateOf? other =
      if number = other then some (.ofBuild built) else cache.stateOf? other := by
  have settled : (cache.setState number .building).settle number built =
      (cache.setState number .building).setState number (.ofBuild built) := by
    cases built <;> rfl
  rw [settled, stateOf?_setState, stateOf?_setState]
  by_cases same : number = other
  · subst same
    simp [found]
  · simp [same]

theorem sameSlots_settle (cache : ProvisionerCache) (number : Nat) (state : SlotState)
    (built : Option Provisioner) :
    cache.SameSlots ((cache.setState number state).settle number built) := by
  have settled : (cache.setState number state).settle number built =
      (cache.setState number state).setState number (.ofBuild built) := by
    cases built <;> rfl
  rw [settled]
  refine ⟨rfl, ?_, fun key spec => ?_⟩
  · rw [length_slots_setState, length_slots_setState]
  · rw [matching?_setState, matching?_setState]

end ProvisionerCache

namespace Reconcile

variable {shared : SharedState} {trace : List Observation} {key : AuthorityKey} {spec : IssuerSpec}
  {result : Except ProvisionerFailure Provisioner}

/-- A caller acquires the slot that it has entered. -/
theorem entered_of_admitsAll {slot : Nat} {held : Option Provisioner} {rest : List Observation}
    (admitted : shared.AdmitsAll
      (⟨.enterSlot key spec, slot⟩ :: ⟨.acquireSlot slot, held⟩ :: rest)) :
    slot = (shared.cache.enter key spec).1 ∧
      ((shared.cache.enter key spec).2.acquire? slot).map Prod.fst = some held :=
  ⟨admitted.1, admitted.2.1⟩

/-- A caller that gets as far as a result was not kept waiting by a build. -/
theorem Provides.isFree (provides : Provides key spec trace result)
    (admitted : shared.AdmitsAll trace) : shared.cache.IsFree key spec := by
  intro number slot matched found building
  have waits : (shared.cache.enter key spec).2.acquire? (shared.cache.enter key spec).1 = none := by
    simp [ProvisionerCache.enter, matched, ProvisionerCache.acquire?, found, building]
  have acquired {slot : Nat} {held : Option Provisioner} {rest : List Observation}
      (admitted : shared.AdmitsAll
        (⟨.enterSlot key spec, slot⟩ :: ⟨.acquireSlot slot, held⟩ :: rest)) : False := by
    obtain ⟨rfl, given⟩ := entered_of_admitsAll admitted
    rw [waits] at given
    cases given
  cases provides with
  | kept slot provisioner => exact acquired admitted
  | broken slot number failure => exact acquired admitted
  | built slot number => exact acquired admitted

/-- A caller that finds its slot empty and leaves it with the result of a build decides about its
key. -/
theorem stateFor?_settled {slot : Nat} {rest : List Observation} {later : ProvisionerCache}
    (admitted : shared.AdmitsAll
      (⟨.enterSlot key spec, slot⟩ :: ⟨.acquireSlot slot, none⟩ :: rest))
    (sound : shared.cache.IsSound shared.finished) (built : Option Provisioner)
    (left : later = ((((shared.cache.enter key spec).2.acquire? slot).map Prod.snd).getD
      (shared.cache.enter key spec).2).settle slot built) (wanted : AuthorityKey)
    (made : IssuerSpec) :
    later.stateFor? wanted made =
      if wanted = key then
        if made = spec then some (.ofBuild built) else none
      else shared.cache.stateFor? wanted made := by
  obtain ⟨rfl, given⟩ := entered_of_admitsAll admitted
  obtain ⟨empty, taken⟩ := ProvisionerCache.acquire?_tasked given
  rw [left, taken, sound.stateFor?_of_sameSlots (ProvisionerCache.sameSlots_settle _ _ _ built),
    ProvisionerCache.stateOf?_settle empty, if_pos rfl]
  intro number elsewhere
  rw [ProvisionerCache.stateOf?_settle empty, if_neg elsewhere.symm]

/-- What a call for a provisioner comes to decides about its key. -/
theorem Provides.stateFor?_after (provides : Provides key spec trace result)
    (admitted : shared.AdmitsAll trace) (sound : shared.cache.IsSound shared.finished)
    (wanted : AuthorityKey) (made : IssuerSpec) :
    (shared.afterAll trace).cache.stateFor? wanted made =
      if wanted = key then
        if made = spec then some (.ofBuild result.toOption) else none
      else shared.cache.stateFor? wanted made := by
  cases provides with
  | kept slot provisioner =>
    obtain ⟨rfl, given⟩ := entered_of_admitsAll admitted
    obtain ⟨held, same⟩ := ProvisionerCache.acquire?_served given
    change ((((shared.cache.enter key spec).2.acquire? _).map Prod.snd).getD
      (shared.cache.enter key spec).2).stateFor? wanted made = _
    rw [same, sound.stateFor?_of_sameSlots (.refl _) fun _ _ => rfl,
      ProvisionerCache.held?_eq_some.mp held]
    rfl
  | broken slot number failure => exact stateFor?_settled admitted sound none rfl wanted made
  | built slot number => exact stateFor?_settled admitted sound (some _) rfl wanted made

theorem Provides.isKept_after (provides : Provides key spec trace result)
    (admitted : shared.AdmitsAll trace) (sound : shared.cache.IsSound shared.finished)
    (wanted : AuthorityKey) (made : IssuerSpec) :
    (shared.afterAll trace).cache.isKept wanted made =
      if wanted = key then decide (made = spec) && result.isOk
      else shared.cache.isKept wanted made := by
  unfold ProvisionerCache.isKept
  rw [provides.stateFor?_after admitted sound]
  by_cases own : wanted = key
  · rw [if_pos own, if_pos own]
    by_cases same : made = spec
    · rw [if_pos same]
      cases result <;>
        simp [same, SlotState.ofBuild, SlotState.provisioner?, Except.toOption, Except.isOk,
          Except.toBool]
    · simp [same]
  · rw [if_neg own, if_neg own]

/-- A call for a provisioner that comes to an end leaves no build under way. -/
theorem Provides.isFree_after (provides : Provides key spec trace result)
    (admitted : shared.AdmitsAll trace) (sound : shared.cache.IsSound shared.finished)
    {wanted : AuthorityKey} {made : IssuerSpec} (free : shared.cache.IsFree wanted made) :
    (shared.afterAll trace).cache.IsFree wanted made := by
  rw [ProvisionerCache.isFree_iff, provides.stateFor?_after admitted sound]
  split
  · split
    · cases result <;> nofun
    · nofun
  · exact ProvisionerCache.isFree_iff.mp free

/-- A call is served when the cache keeps a provisioner for it, and it builds one otherwise. -/
theorem Provides.isKept_iff (provides : Provides key spec trace result)
    (admitted : shared.AdmitsAll trace) :
    shared.cache.isKept key spec = true ↔
      ∃ slot provisioner, ⟨.acquireSlot slot, some provisioner⟩ ∈ trace := by
  rw [ProvisionerCache.isKept_eq_held?_enter]
  have tasked {slot : Nat} {rest : List Observation}
      (admitted : shared.AdmitsAll
        (⟨.enterSlot key spec, slot⟩ :: ⟨.acquireSlot slot, none⟩ :: rest)) :
      (shared.cache.enter key spec).2.held? (shared.cache.enter key spec).1 = none := by
    obtain ⟨rfl, given⟩ := entered_of_admitsAll admitted
    rw [ProvisionerCache.held?, (ProvisionerCache.acquire?_tasked given).1]
    rfl
  cases provides with
  | kept slot provisioner =>
    obtain ⟨rfl, given⟩ := entered_of_admitsAll admitted
    simp [(ProvisionerCache.acquire?_served given).1]
  | broken slot number failure => simp [tasked admitted]
  | built slot number => simp [tasked admitted]

end Reconcile

end Issuance
