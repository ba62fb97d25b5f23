import Issuance.Proofs.Provisioner.Soundness

namespace Issuance.ProvisionerCache

/-- No build is under way in the slot of a key with a specification. -/
def IsFree (cache : ProvisionerCache) (key : AuthorityKey) (spec : IssuerSpec) : Prop :=
  ∀ number slot, cache.matching? key spec = some number → cache.slots[number]? = some slot →
    slot.state ≠ .building

/-- The slot of a key with a specification holds a provisioner. -/
def Keeps (cache : ProvisionerCache) (key : AuthorityKey) (spec : IssuerSpec)
    (provisioner : Provisioner) : Prop :=
  ∃ number slot, cache.matching? key spec = some number ∧ cache.slots[number]? = some slot ∧
    slot.state = .ready provisioner

variable {cache : ProvisionerCache} {number : Nat} {key : AuthorityKey} {spec : IssuerSpec}
  {provisioner : Provisioner}

/-- In an empty cache no build is under way. -/
theorem isFree_empty : ({} : ProvisionerCache).IsFree key spec := by
  intro number slot matched
  cases matched

theorem Keeps.isFree (keeps : cache.Keeps key spec provisioner) : cache.IsFree key spec := by
  obtain ⟨number, slot, matched, found, ready⟩ := keeps
  intro other held same there building
  obtain rfl := Option.some.inj (matched.symm.trans same)
  obtain rfl := Option.some.inj (found.symm.trans there)
  cases ready.symm.trans building

/-- A slot that matches is there and was made for the specification. -/
theorem exists_slot_of_matching? (matched : cache.matching? key spec = some number) :
    ∃ slot, cache.slots[number]? = some slot ∧ slot.spec = spec := by
  obtain ⟨_, fits⟩ := Option.filter_eq_some_iff.mp matched
  cases found : cache.slots[number]? with
  | none => simp [found] at fits
  | some slot =>
    rw [found] at fits
    exact ⟨slot, rfl, beq_iff_eq.mp fits⟩

/-- In a sound cache a provisioner fits its slot. -/
theorem Keeps.fits {built : List Provisioner} (keeps : cache.Keeps key spec provisioner)
    (sound : cache.IsSound built) : provisioner.key = key ∧ provisioner.spec = spec := by
  obtain ⟨number, slot, matched, found, ready⟩ := keeps
  obtain ⟨held, present, fits⟩ := exists_slot_of_matching? matched
  obtain rfl := Option.some.inj (found.symm.trans present)
  obtain ⟨_, sameKey, sameSpec⟩ := sound.ready number slot provisioner found ready
  have offers := sound.offers_enter key spec
  simp only [enter, matched] at offers
  obtain ⟨made, there, rfl, rfl⟩ := offers
  obtain rfl := Option.some.inj (found.symm.trans there)
  exact ⟨sameKey, sameSpec⟩

/-- Only the specification of a slot decides whether it matches. -/
theorem matching?_setState (state : SlotState) (other : AuthorityKey) (wanted : IssuerSpec) :
    (cache.setState number state).matching? other wanted = cache.matching? other wanted := by
  unfold matching?
  congr 1
  funext place
  rw [slots_setState]
  by_cases same : number = place
  · rw [if_pos same]
    cases cache.slots[place]? <;> rfl
  · rw [if_neg same]

/-- The slot that a caller enters matches from then on. -/
theorem matching?_enter (cache : ProvisionerCache) (key : AuthorityKey) (spec : IssuerSpec) :
    (cache.enter key spec).2.matching? key spec = some (cache.enter key spec).1 := by
  unfold enter
  split
  · assumption
  · have fresh : List.lookup key (cache.invalidate key).registered = none := by
      refine List.lookup_eq_none_iff.mpr fun entry member => ?_
      have other : entry.1 ≠ key := by simpa using (List.mem_filter.mp member).2
      simpa using other.symm
    simp [matching?, current?, List.lookup_append, fresh]

/-- A caller enters a slot where no build is under way. -/
theorem IsFree.enter (free : cache.IsFree key spec) :
    (cache.enter key spec).2.IsFree key spec := by
  unfold ProvisionerCache.enter
  split
  · exact free
  · next missed =>
    intro number slot matched found building
    have entered := cache.matching?_enter key spec
    rw [ProvisionerCache.enter, missed] at entered
    obtain rfl := Option.some.inj (entered.symm.trans matched)
    obtain rfl := Option.some.inj (List.getElem?_concat_length.symm.trans found)
    cases building

/-- A kept provisioner is given out, and the cache stays as it is. -/
theorem Keeps.enter (keeps : cache.Keeps key spec provisioner) :
    (cache.enter key spec).2 = cache ∧
      cache.acquire? (cache.enter key spec).1 = some (some provisioner, cache) := by
  obtain ⟨number, slot, matched, found, ready⟩ := keeps
  simp only [ProvisionerCache.enter, matched, true_and]
  simp [acquire?, found, ready]

/-- Where no build is under way, a caller gets a provisioner or the task to build one. -/
theorem IsFree.acquire? (free : cache.IsFree key spec)
    (matched : cache.matching? key spec = some number) :
    (∃ provisioner, cache.Keeps key spec provisioner ∧
        cache.acquire? number = some (some provisioner, cache)) ∨
      cache.acquire? number = some (none, cache.setState number .building) := by
  obtain ⟨slot, found, _⟩ := exists_slot_of_matching? matched
  cases state : slot.state with
  | empty => exact .inr (by simp [ProvisionerCache.acquire?, found, state])
  | building => exact absurd state (free number slot matched found)
  | ready provisioner =>
    refine .inl ⟨provisioner, ⟨number, slot, matched, found, state⟩, ?_⟩
    simp [ProvisionerCache.acquire?, found, state]

/-- A build that succeeds fills its slot. -/
theorem keeps_settle (matched : cache.matching? key spec = some number)
    (provisioner : Provisioner) :
    (cache.settle number (some provisioner)).Keeps key spec provisioner := by
  obtain ⟨slot, found, _⟩ := exists_slot_of_matching? matched
  refine ⟨number, { slot with state := .ready provisioner }, ?_, ?_, rfl⟩
  · rw [settle, matching?_setState, matched]
  · rw [settle, slots_setState, if_pos rfl, found]
    rfl

end Issuance.ProvisionerCache
