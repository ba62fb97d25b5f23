import Issuance.Provisioner.Cache

namespace Issuance.ProvisionerCache

/-- A slot of this number is made for an authority with a specification. -/
def Offers (cache : ProvisionerCache) (number : Nat) (key : AuthorityKey) (spec : IssuerSpec) :
    Prop :=
  ∃ slot, cache.slots[number]? = some slot ∧ slot.key = key ∧ slot.spec = spec

/-- A provisioner in a slot was built for what the slot is made for, and each key is registered for
a slot of its own. -/
structure IsSound (cache : ProvisionerCache) (built : List Provisioner) : Prop where
  ready : ∀ (number : Nat) (slot : Slot) (provisioner : Provisioner),
    cache.slots[number]? = some slot → slot.state = .ready provisioner →
      provisioner ∈ built ∧ provisioner.key = slot.key ∧ provisioner.spec = slot.spec
  registered : ∀ (key : AuthorityKey) (number : Nat), (key, number) ∈ cache.registered →
    ∃ slot, cache.slots[number]? = some slot ∧ slot.key = key

variable {cache : ProvisionerCache} {built : List Provisioner} {number : Nat} {key : AuthorityKey}
  {spec : IssuerSpec}

/-- An empty cache holds nothing that was not built. -/
theorem isSound_empty : ({} : ProvisionerCache).IsSound built where
  ready _ _ _ found := absurd found (by simp)
  registered _ _ member := absurd member List.not_mem_nil

theorem IsSound.mono (sound : cache.IsSound built) {more : List Provisioner}
    (grown : ∀ provisioner ∈ built, provisioner ∈ more) : cache.IsSound more where
  ready number slot provisioner found held := by
    obtain ⟨member, same⟩ := sound.ready number slot provisioner found held
    exact ⟨grown provisioner member, same⟩
  registered := sound.registered

/-- Fewer keys may be registered. -/
theorem IsSound.invalidate (sound : cache.IsSound built) (key : AuthorityKey) :
    (cache.invalidate key).IsSound built where
  ready := sound.ready
  registered other number member := sound.registered other number (List.mem_filter.mp member).1

theorem IsSound.clear (sound : cache.IsSound built) : cache.clear.IsSound built where
  ready := sound.ready
  registered _ _ member := absurd member List.not_mem_nil

theorem slots_setState (state : SlotState) (other : Nat) :
    (cache.setState number state).slots[other]? =
      if number = other then (cache.slots[other]?).map ({ · with state })
      else cache.slots[other]? := by
  rw [setState, List.getElem?_modify]
  split <;> simp_all

/-- The state of a slot does not matter for what it is made for. -/
theorem Offers.setState {other : Nat} (offers : cache.Offers other key spec) (state : SlotState) :
    (cache.setState number state).Offers other key spec := by
  obtain ⟨slot, found, rfl, rfl⟩ := offers
  rw [Offers, slots_setState, found]
  split
  · exact ⟨_, rfl, rfl, rfl⟩
  · exact ⟨_, rfl, rfl, rfl⟩

/-- A slot may take a provisioner that was built for what it is made for. -/
theorem IsSound.setState (sound : cache.IsSound built) {state : SlotState}
    (fits : ∀ provisioner, state = .ready provisioner → provisioner ∈ built ∧
      cache.Offers number provisioner.key provisioner.spec) :
    (cache.setState number state).IsSound built where
  ready other slot provisioner found held := by
    rw [slots_setState] at found
    split at found
    · next same =>
      subst same
      obtain ⟨old, present, rfl⟩ := Option.map_eq_some_iff.mp found
      obtain ⟨member, offered, there, sameKey, sameSpec⟩ := fits provisioner held
      obtain rfl := Option.some.inj (present.symm.trans there)
      exact ⟨member, sameKey.symm, sameSpec.symm⟩
    · exact sound.ready other slot provisioner found held
  registered other place member := by
    obtain ⟨slot, found, same⟩ := sound.registered other place member
    obtain ⟨changed, present, kept, _⟩ :=
      (show cache.Offers place slot.key slot.spec from ⟨slot, found, rfl, rfl⟩).setState state
    exact ⟨changed, present, kept.trans same⟩

/-- What a caller gets from a slot was built for what the slot is made for. -/
theorem IsSound.acquired (sound : cache.IsSound built) {provisioner : Provisioner}
    (held : (cache.acquire? number).map Prod.fst = some (some provisioner)) :
    provisioner ∈ built ∧ cache.Offers number provisioner.key provisioner.spec := by
  cases found : cache.slots[number]? with
  | none => simp [acquire?, found] at held
  | some slot =>
    cases state : slot.state with
    | empty => simp [acquire?, found, state] at held
    | building => simp [acquire?, found, state] at held
    | ready other =>
      obtain rfl : other = provisioner := by simpa [acquire?, found, state] using held
      obtain ⟨member, sameKey, sameSpec⟩ := sound.ready number slot other found state
      exact ⟨member, slot, found, sameKey.symm, sameSpec.symm⟩

/-- A caller leaves the cache as it is, or it takes the task of the build. -/
theorem acquire?_cases (cache : ProvisionerCache) (number : Nat) :
    ((cache.acquire? number).map Prod.snd).getD cache = cache ∨
      ((cache.acquire? number).map Prod.snd).getD cache = cache.setState number .building := by
  unfold acquire?
  split
  · exact .inl rfl
  · exact .inr rfl
  · exact .inl rfl

/-- A caller enters a slot that is made for its key and its specification. -/
theorem IsSound.offers_enter (sound : cache.IsSound built) (key : AuthorityKey)
    (spec : IssuerSpec) : (cache.enter key spec).2.Offers (cache.enter key spec).1 key spec := by
  unfold enter
  split
  · next number matched =>
    obtain ⟨current, fits⟩ := Option.filter_eq_some_iff.mp matched
    obtain ⟨earlier, later, entries, _⟩ := List.lookup_eq_some_iff.mp current
    have member : (key, number) ∈ cache.registered := by simp [entries]
    obtain ⟨slot, found, same⟩ := sound.registered key number member
    rw [found] at fits
    exact ⟨slot, found, same, beq_iff_eq.mp fits⟩
  · exact ⟨_, List.getElem?_concat_length, rfl, rfl⟩

/-- A new slot takes no place from the old ones. -/
theorem Offers.enter {other : AuthorityKey} {wanted : IssuerSpec}
    (offers : cache.Offers number other wanted) (key : AuthorityKey) (spec : IssuerSpec) :
    (cache.enter key spec).2.Offers number other wanted := by
  unfold ProvisionerCache.enter
  split
  · exact offers
  · obtain ⟨slot, found, sameKey, sameSpec⟩ := offers
    have inside : number < cache.slots.length := (List.getElem?_eq_some_iff.mp found).1
    refine ⟨slot, ?_, sameKey, sameSpec⟩
    rw [List.getElem?_append_left inside, found]

theorem IsSound.enter (sound : cache.IsSound built) (key : AuthorityKey) (spec : IssuerSpec) :
    (cache.enter key spec).2.IsSound built := by
  unfold ProvisionerCache.enter
  split
  · exact sound
  · constructor
    · intro number slot provisioner found held
      rcases Nat.lt_or_ge number cache.slots.length with inside | outside
      · rw [List.getElem?_append_left inside] at found
        exact sound.ready number slot provisioner found held
      · rw [List.getElem?_append_right outside, List.getElem?_singleton] at found
        split at found
        · obtain rfl := Option.some.inj found
          cases held
        · cases found
    · intro other number member
      rcases List.mem_append.mp member with early | new
      · obtain ⟨slot, found, same⟩ := (sound.invalidate key).registered other number early
        have inside : number < cache.slots.length := (List.getElem?_eq_some_iff.mp found).1
        refine ⟨slot, ?_, same⟩
        rw [List.getElem?_append_left inside]
        exact found
      · obtain ⟨rfl, rfl⟩ := Prod.mk.inj (List.mem_singleton.mp new)
        exact ⟨_, List.getElem?_concat_length, rfl⟩

end Issuance.ProvisionerCache
