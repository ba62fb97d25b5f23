import Issuance.Proofs.Provisioner.Keeping

namespace Issuance

namespace SlotState

/-- The provisioner of a slot in this state. -/
def provisioner? : SlotState → Option Provisioner
  | ready provisioner => some provisioner
  | _ => none

/-- A slot in this state gives no task to build. -/
def isOccupied : SlotState → Bool
  | empty => false
  | _ => true

end SlotState

namespace ProvisionerCache

/-- A slot that is not there has no state. -/
def stateOf? (cache : ProvisionerCache) (number : Nat) : Option SlotState :=
  (cache.slots[number]?).map Slot.state

/-- A build is under way in a slot. -/
def isBuilding (cache : ProvisionerCache) (number : Nat) : Bool :=
  cache.stateOf? number = some .building

/-- A build is under way in a slot, or the slot holds a provisioner. -/
def isOccupied (cache : ProvisionerCache) (number : Nat) : Bool :=
  (cache.stateOf? number).any SlotState.isOccupied

/-- The provisioner in a slot. -/
def held? (cache : ProvisionerCache) (number : Nat) : Option Provisioner :=
  (cache.stateOf? number).bind SlotState.provisioner?

variable {cache : ProvisionerCache} {number other : Nat} {key wanted : AuthorityKey}
  {spec : IssuerSpec} {provisioner : Provisioner} {state : SlotState}

theorem held?_eq_some :
    cache.held? number = some provisioner ↔ cache.stateOf? number = some (.ready provisioner) := by
  unfold held?
  cases cache.stateOf? number with
  | none => simp
  | some state => cases state <;> simp [SlotState.provisioner?]

theorem stateOf?_eq_some :
    cache.stateOf? number = some state ↔
      ∃ slot, cache.slots[number]? = some slot ∧ slot.state = state :=
  Option.map_eq_some_iff

/-- A slot holds nothing while a build is under way in it. -/
theorem held?_eq_none_of_isBuilding (building : cache.isBuilding number = true) :
    cache.held? number = none := by
  rw [held?, of_decide_eq_true building]
  rfl

theorem keeps_iff : cache.Keeps key spec provisioner ↔
    ∃ number, cache.matching? key spec = some number ∧ cache.held? number = some provisioner := by
  simp only [Keeps, held?_eq_some, stateOf?_eq_some, exists_and_left]

theorem isOccupied_of_held? (held : cache.held? number = some provisioner) :
    cache.isOccupied number = true ∧ cache.isBuilding number = false := by
  have ready := held?_eq_some.mp held
  simp [isOccupied, isBuilding, ready, SlotState.isOccupied]

theorem stateOf?_setState (state : SlotState) :
    (cache.setState number state).stateOf? other =
      if number = other then (cache.stateOf? other).map fun _ => state
      else cache.stateOf? other := by
  unfold stateOf?
  rw [slots_setState]
  split
  · cases cache.slots[other]? <;> rfl
  · rfl

section SetState

variable {before : SlotState} (found : cache.stateOf? number = some before)

include found

theorem isBuilding_setState (state : SlotState) :
    (cache.setState number state).isBuilding other =
      if number = other then decide (state = .building) else cache.isBuilding other := by
  rw [isBuilding, stateOf?_setState]
  split
  · next same =>
    subst same
    simp [found]
  · rfl

theorem isOccupied_setState (state : SlotState) :
    (cache.setState number state).isOccupied other =
      if number = other then state.isOccupied else cache.isOccupied other := by
  rw [isOccupied, stateOf?_setState]
  split
  · next same =>
    subst same
    simp [found]
  · rfl

theorem held?_setState (state : SlotState) :
    (cache.setState number state).held? other =
      if number = other then state.provisioner? else cache.held? other := by
  rw [held?, stateOf?_setState]
  split
  · next same =>
    subst same
    simp [found]
  · rfl

end SetState

/-- The slot of a caller is made empty when it was not there before. -/
theorem stateOf?_enter (cache : ProvisionerCache) (key : AuthorityKey) (spec : IssuerSpec)
    (other : Nat) :
    (cache.enter key spec).2.stateOf? other = cache.stateOf? other ∨
      cache.stateOf? other = none ∧ (cache.enter key spec).2.stateOf? other = some .empty := by
  unfold enter
  split
  · exact .inl rfl
  · unfold stateOf?
    rcases Nat.lt_trichotomy other cache.slots.length with inside | rfl | outside
    · exact .inl (congrArg _ (List.getElem?_append_left inside))
    · right
      simp
    · left
      have beyond : (cache.slots ++ [Slot.mk key spec .empty]).length ≤ other := by
        rw [List.length_append]
        exact outside
      rw [List.getElem?_eq_none beyond, List.getElem?_eq_none (Nat.le_of_lt outside)]

@[simp] theorem isBuilding_enter :
    (cache.enter key spec).2.isBuilding other = cache.isBuilding other := by
  unfold isBuilding
  rcases cache.stateOf?_enter key spec other with same | ⟨absent, made⟩
  · rw [same]
  · simp [absent, made]

@[simp] theorem isOccupied_enter :
    (cache.enter key spec).2.isOccupied other = cache.isOccupied other := by
  unfold isOccupied
  rcases cache.stateOf?_enter key spec other with same | ⟨absent, made⟩
  · rw [same]
  · simp [absent, made, SlotState.isOccupied]

@[simp] theorem held?_enter :
    (cache.enter key spec).2.held? other = cache.held? other := by
  unfold held?
  rcases cache.stateOf?_enter key spec other with same | ⟨absent, made⟩
  · rw [same]
  · simp [absent, made, SlotState.provisioner?]

/-- The slots only become more. -/
theorem length_slots_enter : cache.slots.length ≤ (cache.enter key spec).2.slots.length := by
  unfold enter
  split
  · exact Nat.le_refl _
  · simp

@[simp] theorem length_slots_setState :
    (cache.setState number state).slots.length = cache.slots.length :=
  List.length_modify _ _ _

/-- A caller that is served gets what the slot holds, and the cache stays. -/
theorem acquire?_served (served : (cache.acquire? number).map Prod.fst = some (some provisioner)) :
    cache.held? number = some provisioner ∧
      ((cache.acquire? number).map Prod.snd).getD cache = cache := by
  rw [held?_eq_some, stateOf?]
  unfold acquire? at served ⊢
  cases found : (cache.slots[number]?).map Slot.state with
  | none => simp [found] at served
  | some state => cases state <;> simp_all

/-- A caller that is not served finds an empty slot and takes the task of the build. -/
theorem acquire?_tasked (tasked : (cache.acquire? number).map Prod.fst = some none) :
    cache.stateOf? number = some .empty ∧
      ((cache.acquire? number).map Prod.snd).getD cache = cache.setState number .building := by
  rw [stateOf?]
  unfold acquire? at tasked ⊢
  cases found : (cache.slots[number]?).map Slot.state with
  | none => simp [found] at tasked
  | some state => cases state <;> simp_all

/-- A slot fits a key with a specification when it is registered for the key and made for the
specification. -/
theorem matching?_eq_some : cache.matching? key spec = some number ↔
    cache.current? key = some number ∧
      ∃ slot, cache.slots[number]? = some slot ∧ slot.spec = spec := by
  rw [matching?, Option.filter_eq_some_iff]
  cases cache.slots[number]? <;> simp

theorem current?_invalidate : (cache.invalidate wanted).current? key =
    if key = wanted then none else cache.current? key := by
  unfold current? invalidate
  induction cache.registered with
  | nil => simp
  | cons entry entries ih =>
      obtain ⟨first, place⟩ := entry
      by_cases gone : first = wanted
      · by_cases same : key = wanted
        · simpa [gone, same] using ih
        · have other : (key == wanted) = false := by simpa using same
          simpa [gone, same, List.lookup_cons, other] using ih
      · by_cases same : key = first
        · simp [gone, same]
        · have other : (key == first) = false := by simpa using same
          simpa [gone, List.lookup_cons, other] using ih

/-- A caller registers its slot for its key and leaves the other keys alone. -/
theorem current?_enter : (cache.enter wanted spec).2.current? key =
    if key = wanted then some (cache.enter wanted spec).1 else cache.current? key := by
  by_cases same : key = wanted
  · subst same
    rw [if_pos rfl]
    exact (matching?_eq_some.mp (cache.matching?_enter key spec)).1
  · rw [if_neg same]
    unfold enter
    split
    · rfl
    · have others : (cache.invalidate wanted).current? key = _ := current?_invalidate
      rw [if_neg same, current?] at others
      have fresh : (key == wanted) = false := by simpa using same
      simp [current?, List.lookup_append, others, List.lookup_cons, fresh]

/-- A caller of a key uses the slot that is registered for it, or a new one. -/
theorem enter_fst : cache.current? key = some (cache.enter key spec).1 ∨
    (cache.enter key spec).1 = cache.slots.length := by
  unfold enter
  split
  · next matched => exact .inl (matching?_eq_some.mp matched).1
  · exact .inr rfl

/-- An empty slot gives the task to build. -/
theorem acquire?_of_empty (empty : cache.stateOf? number = some .empty) :
    (cache.acquire? number).map Prod.fst = some none := by
  have found : (cache.slots[number]?).map Slot.state = some .empty := empty
  simp [acquire?, found]

/-- A new slot gives the task to build. -/
theorem acquire?_enter_of_missed (missed : cache.matching? key spec = none) :
    ((cache.enter key spec).2.acquire? (cache.enter key spec).1).map Prod.fst = some none := by
  apply acquire?_of_empty
  simp [enter, missed, stateOf?]

/-- The matching slot of a key stays the same, or it is a new one. -/
def Preserves (cache later : ProvisionerCache) (key : AuthorityKey) (spec : IssuerSpec) : Prop :=
  later.matching? key spec = cache.matching? key spec ∨
    cache.matching? key spec = none ∧
      ∃ number, cache.slots.length ≤ number ∧ later.matching? key spec = some number

theorem Preserves.refl (cache : ProvisionerCache) : cache.Preserves cache key spec := .inl rfl

theorem Preserves.trans {later last : ProvisionerCache} (preserves : cache.Preserves later key spec)
    (longer : cache.slots.length ≤ later.slots.length) (again : later.Preserves last key spec) :
    cache.Preserves last key spec := by
  rcases preserves with same | ⟨missed, number, new, matched⟩
  · rcases again with still | ⟨absent, number, new, matched⟩
    · exact .inl (still.trans same)
    · exact .inr ⟨same.symm.trans absent, number, Nat.le_trans longer new, matched⟩
  · rcases again with still | ⟨absent, _⟩
    · exact .inr ⟨missed, number, new, still.trans matched⟩
    · cases absent.symm.trans matched

/-- A slot that matches goes on to match. -/
theorem Preserves.matching? {later : ProvisionerCache} (preserves : cache.Preserves later key spec)
    (matched : cache.matching? key spec = some number) :
    later.matching? key spec = some number := by
  rcases preserves with same | ⟨missed, _⟩
  · exact same.trans matched
  · cases missed.symm.trans matched

/-- A caller of a key with a specification keeps the slot of the key for the specification. -/
theorem preserves_enter : cache.Preserves (cache.enter key spec).2 key spec := by
  have entered := cache.matching?_enter key spec
  unfold enter at entered ⊢
  split at entered
  · exact .inl rfl
  · next missed => exact .inr ⟨missed, _, Nat.le_refl _, entered⟩

/-- A key that has a slot is registered for it. -/
theorem mem_registered (current : cache.current? key = some number) :
    (key, number) ∈ cache.registered := by
  obtain ⟨earlier, later, entries, _⟩ := List.lookup_eq_some_iff.mp current
  simp [entries]

/-- A slot is made for one key and one specification. -/
theorem Offers.unique {first second : IssuerSpec} (offers : cache.Offers number key first)
    (others : cache.Offers number wanted second) : wanted = key ∧ second = first := by
  obtain ⟨slot, found, rfl, rfl⟩ := offers
  obtain ⟨same, there, rfl, rfl⟩ := others
  obtain rfl := Option.some.inj (found.symm.trans there)
  exact ⟨rfl, rfl⟩

/-- A slot has a number below that of the next new slot. -/
theorem Offers.lt_length (offers : cache.Offers number key spec) :
    number < cache.slots.length := by
  obtain ⟨slot, found, _⟩ := offers
  exact (List.getElem?_eq_some_iff.mp found).1

section Sound

variable {built : List Provisioner} (sound : cache.IsSound built)

include sound

/-- The slot of a key is made for the key. -/
theorem IsSound.exists_offers (current : cache.current? key = some number) :
    ∃ wanted, cache.Offers number key wanted := by
  obtain ⟨slot, found, same⟩ := sound.registered key number (mem_registered current)
  exact ⟨slot.spec, slot, found, same, rfl⟩

theorem IsSound.matching?_eq_some : cache.matching? key spec = some number ↔
    cache.current? key = some number ∧ cache.Offers number key spec := by
  rw [ProvisionerCache.matching?_eq_some]
  constructor
  · rintro ⟨current, slot, found, rfl⟩
    obtain ⟨other, there, same⟩ := sound.registered key number (mem_registered current)
    obtain rfl := Option.some.inj (found.symm.trans there)
    exact ⟨current, slot, found, same, rfl⟩
  · rintro ⟨current, slot, found, -, fits⟩
    exact ⟨current, slot, found, fits⟩

/-- A caller of another key changes nothing for a key. -/
theorem IsSound.matching?_enter_of_ne (other : key ≠ wanted) (made : IssuerSpec) :
    (cache.enter wanted made).2.matching? key spec = cache.matching? key spec := by
  apply Option.ext
  intro number
  rw [(sound.enter wanted made).matching?_eq_some, sound.matching?_eq_some, current?_enter,
    if_neg other]
  constructor
  · rintro ⟨current, offers⟩
    obtain ⟨first, before⟩ := sound.exists_offers current
    obtain ⟨-, rfl⟩ := (before.enter wanted made).unique offers
    exact ⟨current, before⟩
  · rintro ⟨current, offers⟩
    exact ⟨current, offers.enter wanted made⟩

end Sound

theorem matching?_invalidate_of_ne (other : key ≠ wanted) :
    (cache.invalidate wanted).matching? key spec = cache.matching? key spec := by
  unfold matching?
  rw [current?_invalidate, if_neg other]
  rfl

/-- Two caches differ in nothing but the states of their slots. -/
structure SameSlots (cache later : ProvisionerCache) : Prop where
  registered : later.registered = cache.registered
  length : later.slots.length = cache.slots.length
  matching? : ∀ key spec, later.matching? key spec = cache.matching? key spec

theorem SameSlots.refl (cache : ProvisionerCache) : cache.SameSlots cache :=
  ⟨rfl, rfl, fun _ _ => rfl⟩

theorem sameSlots_setState (number : Nat) (state : SlotState) :
    cache.SameSlots (cache.setState number state) :=
  ⟨rfl, length_slots_setState, matching?_setState state⟩

end ProvisionerCache

end Issuance
