import Issuance.Cluster.Store

namespace Issuance

namespace Entries

variable {κ α : Type} [DecidableEq κ]

theorem lookup_cons (key : κ) (entry : κ × α) (entries : List (κ × α)) :
    (entry :: entries).lookup key = if key = entry.1 then some entry.2 else entries.lookup key := by
  obtain ⟨first, value⟩ := entry
  rw [List.lookup_cons]
  by_cases same : key = first
  · simp [same]
  · simp [same, beq_false_of_ne same]

/-- A key that is looked up with success is one of the keys. -/
theorem lookup_isSome_iff {entries : List (κ × α)} {key : κ} :
    (entries.lookup key).isSome ↔ key ∈ entries.map Prod.fst := by
  induction entries with
  | nil => simp
  | cons entry entries ih =>
      rw [lookup_cons]
      by_cases same : key = entry.1
      · simp [same]
      · simp [same, ih]

/-- Where no key comes twice, a filter keeps or drops the only value under a key. -/
theorem lookup_filter {entries : List (κ × α)} (distinct : (entries.map Prod.fst).Nodup)
    (keeps : κ × α → Bool) (key : κ) :
    (entries.filter keeps).lookup key =
      (entries.lookup key).filter fun value => keeps (key, value) := by
  induction entries with
  | nil => rfl
  | cons entry entries ih =>
      obtain ⟨first, value⟩ := entry
      obtain ⟨unused, rest⟩ := List.nodup_cons.mp distinct
      rw [lookup_cons]
      by_cases same : key = first
      · subst same
        have absent : entries.lookup key = none := by
          apply Option.not_isSome_iff_eq_none.mp
          rwa [lookup_isSome_iff]
        cases kept : keeps (key, value)
        · simp [kept, ih rest, absent, Option.filter_some]
        · simp [kept, lookup_cons, Option.filter_some]
      · cases kept : keeps (first, value)
        · simp [kept, same, ih rest]
        · simp [kept, lookup_cons, same, ih rest]

/-- Setting a value changes what is found under its key, and nothing else. -/
theorem lookup_set (key other : κ) (value : α) (entries : List (κ × α)) :
    (set key value entries).lookup other =
      if other = key then some value else entries.lookup other := by
  induction entries with
  | nil => exact lookup_cons other (key, value) []
  | cons entry entries ih =>
      by_cases first : entry.1 = key <;> by_cases same : other = entry.1
      · simp [set, lookup_cons, same, first]
      · simp [set, lookup_cons, first, first ▸ same]
      · simp [set, lookup_cons, same, first]
      · simp [set, lookup_cons, same, first, ih]

/-- An adjustment reaches only the value under its key. -/
theorem lookup_adjust (key other : κ) (change : α → α) (entries : List (κ × α)) :
    (adjust key change entries).lookup other =
      if other = key then (entries.lookup other).map change else entries.lookup other := by
  induction entries with
  | nil => simp [adjust]
  | cons entry entries ih =>
      rw [adjust] at ih
      by_cases first : entry.1 = key <;> by_cases same : other = entry.1
      · simp [adjust, lookup_cons, same, first]
      · simp [adjust, lookup_cons, first, ih, first ▸ same]
      · simp [adjust, lookup_cons, same, first]
      · simp [adjust, lookup_cons, same, first, ih]

end Entries

namespace Metadata

@[simp] theorem annotation?_annotate (metadata : Metadata) (key value : String) :
    (metadata.annotate key value).annotation? key = some value := by
  simp [annotate, annotation?, Entries.lookup_set]

end Metadata

namespace CertificateRequest

/-- An identifier is found again when it is not empty. -/
theorem certificateArn?_annotateArn (request : CertificateRequest) {arn : String}
    (filled : arn ≠ "") : (request.annotateArn arn).certificateArn? = some arn := by
  simp [annotateArn, certificateArn?, filled]

/-- The name of a request that is found by its identifier is not empty. -/
theorem certificateArn?_eq_some {request : CertificateRequest} {arn : String} :
    request.certificateArn? = some arn ↔
      request.metadata.annotation? arnKey = some arn ∧ arn ≠ "" := by
  simp [certificateArn?, Option.filter_eq_some_iff]

end CertificateRequest

namespace Cluster

/-- A store finds every request under the name that it carries. -/
def IsNamed (cluster : Cluster) : Prop :=
  ∀ name request, cluster.request? name = some request → request.metadata.resourceName = name

theorem isNamed_of_nil {cluster : Cluster} (empty : cluster.requests = []) : cluster.IsNamed := by
  intro name request found
  rw [request?, empty] at found
  cases found

/-- A request is put under the name that it carries. -/
theorem IsNamed.putRequest {cluster : Cluster} (named : cluster.IsNamed)
    (request : CertificateRequest) : (cluster.putRequest request).IsNamed := by
  intro name found present
  have stored : (if name = request.metadata.resourceName then some request
      else cluster.request? name) = some found :=
    (Entries.lookup_set _ name request cluster.requests).symm.trans present
  split at stored
  · next same =>
    obtain rfl := Option.some.inj stored
    exact same.symm
  · exact named name found stored

theorem request?_changeRequest (cluster : Cluster) (name other : ResourceName)
    (change : CertificateRequest → CertificateRequest) :
    (cluster.changeRequest name change).request? other =
      if other = name then (cluster.request? other).map change else cluster.request? other :=
  Entries.lookup_adjust name other change cluster.requests

theorem IsNamed.changeRequest {cluster : Cluster} (named : cluster.IsNamed) (name : ResourceName)
    {change : CertificateRequest → CertificateRequest}
    (keeps : ∀ request, (change request).metadata.resourceName = request.metadata.resourceName) :
    (cluster.changeRequest name change).IsNamed := by
  intro other request found
  rw [request?_changeRequest] at found
  split at found
  · obtain ⟨stored, present, rfl⟩ := Option.map_eq_some_iff.mp found
    rw [keeps, named other stored present]
  · exact named other request found

end Cluster

end Issuance
