import Mathlib.Data.List.Basic
import Issuance.Cluster.Store
import Issuance.Proofs.Cluster.Requests
import Issuance.Proofs.Text.Letters
import Issuance.Retry.ErrorHistory

namespace Issuance

namespace ResourceName

/-- The key under which the errors of a resource are kept. -/
def key (resource : ResourceName) : String := resourceKey resource.namespaceName resource.name

/-- The namespace holds no slash. -/
def IsPlain (resource : ResourceName) : Prop := '/' ∉ resource.namespaceName.toList

/-- The first slash of a key ends the namespace. -/
theorem key_toList (resource : ResourceName) : resource.key.toList =
    resource.namespaceName.toList ++ '/' :: resource.name.toList := by
  simp [key, resourceKey]

theorem IsPlain.takeWhile_key {resource : ResourceName} (plain : resource.IsPlain) :
    resource.key.toList.takeWhile (· ≠ '/') = resource.namespaceName.toList := by
  rw [key_toList]
  exact (Text.span_mark plain (by simp)).1

/-- No two resources share a key. -/
theorem key_injective {left right : ResourceName} (plain : left.IsPlain) (other : right.IsPlain)
    (same : left.key = right.key) : left = right := by
  have namespaces : left.namespaceName = right.namespaceName := by
    apply String.toList_inj.mp
    rw [← plain.takeWhile_key, same, other.takeWhile_key]
  have names : left.name = right.name := by
    have letters := congrArg String.toList same
    rw [key_toList, key_toList, namespaces] at letters
    exact String.toList_inj.mp (List.cons.inj (List.append_cancel_left letters)).2
  cases left
  cases right
  exact congrArg₂ ResourceName.mk namespaces names

end ResourceName

namespace RetryTable

def keys (table : RetryTable) : List String := table.histories.map Prod.fst

variable {table : RetryTable} {key : String}

theorem history?_isSome_iff : (table.history? key).isSome ↔ key ∈ table.keys :=
  Entries.lookup_isSome_iff

/-- A filter leaves every key with at most one history. -/
theorem nodup_filter (distinct : table.keys.Nodup) (keeps : String × ErrorHistory → Bool) :
    (RetryTable.mk (table.histories.filter keeps)).keys.Nodup :=
  distinct.sublist (List.filter_sublist.map Prod.fst)

theorem history?_prune (distinct : table.keys.Nodup) (idle : Span) (now : Instant)
    (own : String) :
    (table.prune idle now own).history? key =
      (table.history? key).filter fun history => key == own || !history.isStale now idle :=
  Entries.lookup_filter distinct _ key

theorem history?_forget (distinct : table.keys.Nodup) (gone : String) :
    (table.forget gone).history? key = if key = gone then none else table.history? key := by
  rw [forget, history?, Entries.lookup_filter distinct, ← history?]
  by_cases same : key = gone
  · simp [same]
  · cases table.history? key <;> simp [same]

theorem history?_store (distinct : table.keys.Nodup) (own : String) (history : ErrorHistory) :
    (table.store own history).history? key =
      if key = own then some history else table.history? key := by
  have others : (table.forget own).history? key = _ := history?_forget distinct own
  rw [forget, history?] at others
  rw [store, history?, List.lookup_append, others, Entries.lookup_cons]
  by_cases same : key = own
  · simp [same]
  · simp [same]

theorem mem_keys_prune {idle : Span} {now : Instant} {own : String}
    (member : key ∈ (table.prune idle now own).keys) : key ∈ table.keys :=
  (List.filter_sublist.map Prod.fst).subset member

theorem mem_keys_store {own : String} {history : ErrorHistory} :
    key ∈ (table.store own history).keys ↔ key = own ∨ key ∈ table.keys := by
  simp [keys, store]
  grind

theorem nodup_store (distinct : table.keys.Nodup) (own : String) (history : ErrorHistory) :
    (table.store own history).keys.Nodup := by
  have kept : (table.forget own).keys.Nodup := nodup_filter distinct _
  have absent : own ∉ (table.forget own).keys := by
    simp [keys, forget]
  change ((table.forget own).histories ++ [(own, history)]).map Prod.fst |>.Nodup
  rw [List.map_append]
  apply List.nodup_append.mpr
  refine ⟨kept, List.pairwise_singleton _ _, ?_⟩
  rintro _ member _ last rfl
  rw [List.mem_singleton.mp last] at member
  exact absent member

end RetryTable

end Issuance
