import Mathlib.Data.Set.Card
import Issuance.Proofs.Cluster.Requests
import Issuance.Proofs.Provisioner.SlotStates

namespace Issuance.ProvisionerCache

def keys (cache : ProvisionerCache) : List AuthorityKey := cache.registered.map Prod.fst

/-- The slot of the key holds a provisioner. -/
def Counts (cache : ProvisionerCache) (key : AuthorityKey) : Prop :=
  ∃ number provisioner, cache.current? key = some number ∧ cache.held? number = some provisioner

variable {cache : ProvisionerCache} {key : AuthorityKey}

theorem nodup_invalidate (distinct : cache.keys.Nodup) (gone : AuthorityKey) :
    (cache.invalidate gone).keys.Nodup :=
  distinct.sublist (List.filter_sublist.map Prod.fst)

/-- A caller takes the place of the callers before it. -/
theorem nodup_enter (distinct : cache.keys.Nodup) (key : AuthorityKey) (spec : IssuerSpec) :
    (cache.enter key spec).2.keys.Nodup := by
  unfold enter
  split
  · exact distinct
  · have others := nodup_invalidate distinct key
    have absent : key ∉ (cache.invalidate key).keys := by
      intro member
      obtain ⟨entry, present, same⟩ := List.mem_map.mp member
      simpa [same] using (List.mem_filter.mp present).2
    simpa [keys] using List.Nodup.concat absent others

/-- The slot of an entry holds a provisioner. -/
def isFilled (cache : ProvisionerCache) (entry : AuthorityKey × Nat) : Bool :=
  (cache.held? entry.2).isSome

theorem size_eq (cache : ProvisionerCache) :
    cache.size = (cache.registered.filter cache.isFilled).length := by
  rw [size, ← List.countP_eq_length_filter]
  apply List.countP_congr
  intro entry _
  unfold isFilled held? stateOf? Slot.isReady
  cases cache.slots[entry.2]? with
  | none => simp
  | some slot => cases found : slot.state <;> simp [found, SlotState.provisioner?]

/-- A key counts when it has an entry whose slot holds a provisioner. -/
theorem counts_iff (distinct : cache.keys.Nodup) :
    cache.Counts key ↔ key ∈ (cache.registered.filter cache.isFilled).map Prod.fst := by
  rw [← Entries.lookup_isSome_iff, Entries.lookup_filter distinct, Counts]
  change (∃ number provisioner, cache.current? key = _ ∧ _) ↔
    (Option.filter _ (cache.current? key)).isSome = true
  cases cache.current? key with
  | none => simp
  | some number => simp [Option.filter_some, isFilled, Option.isSome_iff_exists]

/-- The size of a cache is the number of keys whose slot holds a provisioner. -/
theorem encard_counts (distinct : cache.keys.Nodup) :
    {key | cache.Counts key}.encard = cache.size := by
  have unique : ((cache.registered.filter cache.isFilled).map Prod.fst).Nodup :=
    distinct.sublist (List.filter_sublist.map Prod.fst)
  have same : {key | cache.Counts key} =
      (((cache.registered.filter cache.isFilled).map Prod.fst).toFinset : Set AuthorityKey) := by
    ext key
    rw [List.coe_toFinset]
    exact counts_iff distinct
  rw [same, Set.encard_coe_eq_coe_finsetCard, List.toFinset_card_of_nodup unique, List.length_map,
    size_eq]

end Issuance.ProvisionerCache
