import Issuance.Reconcile.Status

/- An amendment states any Ready condition, and decisions are amendments. What has been amended once
is not changed by the same amendment again, at whatever time. -/
namespace Issuance

namespace Condition

variable {ready : Condition} (kind : ready.isReadyKind = true) (conditions : List Condition)

theorem findReady?_filter :
    findReady? (conditions.filter isReadyKind) = findReady? conditions := by
  simp [findReady?, List.find?_filter]

include kind

/-- The first Ready condition is replaced, and those behind it stay. -/
theorem filter_putReady :
    (putReady ready conditions).filter isReadyKind =
      ready :: (conditions.filter isReadyKind).tail := by
  induction conditions with
  | nil => simp [putReady, kind]
  | cons condition conditions ih =>
      by_cases first : condition.isReadyKind = true
      · simp [putReady, first, kind]
      · simp [putReady, first, ih]

theorem putReady_filter :
    putReady ready (conditions.filter isReadyKind) =
      (putReady ready conditions).filter isReadyKind := by
  rw [filter_putReady kind]
  cases own : conditions.filter isReadyKind with
  | nil => rfl
  | cons condition rest =>
      have first : condition.isReadyKind = true := by
        have member : condition ∈ conditions.filter isReadyKind := own ▸ List.mem_cons_self
        exact (List.mem_filter.mp member).2
      simp [putReady, first]

theorem findReady?_putReady : findReady? (putReady ready conditions) = some ready := by
  induction conditions with
  | nil => simp [putReady, findReady?, kind]
  | cons condition conditions ih =>
      by_cases first : condition.isReadyKind = true
      · simp [putReady, findReady?, first, kind]
      · simpa [putReady, findReady?, first] using ih

/-- The last Ready condition that is put stays, at the place of the first one. -/
theorem putReady_putReady (next : Condition) :
    putReady next (putReady ready conditions) = putReady next conditions := by
  induction conditions with
  | nil => simp [putReady, kind]
  | cons condition conditions ih =>
      by_cases first : condition.isReadyKind = true
      · simp [putReady, first, kind]
      · simp [putReady, first, ih]

omit kind in
/-- The time of the last transition stays with the status. -/
theorem transitionTime_of_same {previous : Condition} {status : ConditionStatus} {time : String}
    (same : previous.status = status) (recorded : previous.lastTransitionTime = some time)
    (stamp : String) : transitionTime (some previous) status stamp = time := by
  simp [transitionTime, Option.filter_some, same, recorded]

end Condition

/-- What may be stated about a request in general. The bytes count with the reason of a stored
certificate only. -/
structure Amendment where
  status : ConditionStatus
  reason : String
  message : String
  certificate : Option (List UInt8)
  ca : Option (List UInt8)
  deriving DecidableEq, Repr

namespace Amendment

variable (amendment : Amendment)

/-- The payload of a status after an amendment that may bring bytes. -/
def payload (bytes : Option (List UInt8)) (current : Option String) : Option String :=
  if amendment.reason = Condition.issuedReason then (bytes.map Base64.encodeText).or current
  else current

/-- The time of the failure after an amendment. The first failure sets it. -/
def failureTime (current : Option String) (stamp : String) : Option String :=
  if amendment.reason = Condition.failedReason then current.or (some stamp) else current

@[simp] theorem payload_payload (bytes : Option (List UInt8)) (current : Option String) :
    amendment.payload bytes (amendment.payload bytes current) =
      amendment.payload bytes current := by
  unfold payload
  split
  · cases bytes <;> simp
  · rfl

@[simp] theorem failureTime_failureTime (current : Option String) (first later : String) :
    amendment.failureTime (amendment.failureTime current first) later =
      amendment.failureTime current first := by
  unfold failureTime
  split
  · cases current <;> simp
  · rfl

end Amendment

namespace StatusUpdate

/-- A decision as an amendment. -/
def amendment (update : StatusUpdate) : Amendment where
  status := update.status
  reason := update.reason
  message := update.message
  certificate :=
    match update with
    | issued stored => some stored.certificate
    | _ => none
  ca :=
    match update with
    | issued stored => some stored.ca
    | _ => none

end StatusUpdate

namespace CertificateRequestStatus

variable (status : CertificateRequestStatus) (amendment : Amendment)

@[simp] theorem isIssued_owned : status.owned.isIssued = status.isIssued := by
  simp only [isIssued, owned, List.any_filter]
  congr 1
  funext condition
  simp only [Condition.isIssued]
  cases condition.isReadyKind <;> simp

/-- The Ready condition of an amendment that is made at the time of a stamp. -/
def amendedReady (stamp : String) : Condition :=
  { Condition.ready amendment.status amendment.reason amendment.message with
    lastTransitionTime := some
      (Condition.transitionTime (Condition.findReady? status.conditions) amendment.status stamp) }

/-- An amendment changes the Ready condition and what belongs to it. Once the certificate is stored,
nothing changes. -/
def amend (stamp : String) : CertificateRequestStatus :=
  if status.isIssued then status
  else
    { conditions := Condition.putReady (status.amendedReady amendment stamp) status.conditions
      certificate := amendment.payload amendment.certificate status.certificate
      ca := amendment.payload amendment.ca status.ca
      failureTime := amendment.failureTime status.failureTime stamp }

theorem isReadyKind_amendedReady (stamp : String) :
    (status.amendedReady amendment stamp).isReadyKind = true :=
  beq_self_eq_true Condition.readyKind

/-- A decision does what its amendment does. -/
theorem amend_amendment (update : StatusUpdate) (stamp : String) :
    status.amend update.amendment stamp = status.apply update stamp := by
  have reasons : Condition.pendingReason ≠ Condition.issuedReason ∧
      Condition.pendingReason ≠ Condition.failedReason ∧
      Condition.failedReason ≠ Condition.issuedReason ∧
      Condition.issuedReason ≠ Condition.failedReason := by decide
  obtain ⟨pending, unfailed, failed, issued⟩ := reasons
  cases update <;>
    simp [amend, apply, StatusUpdate.amendment, StatusUpdate.reason, Amendment.payload,
      Amendment.failureTime, amendedReady, readyCondition, pending, unfailed, failed, issued]

/-- The status of an amended Ready condition does not change again, and so its time stays. -/
theorem amendedReady_amend (unissued : status.isIssued = false) (first later : String) :
    (status.amend amendment first).amendedReady amendment later =
      status.amendedReady amendment first := by
  have found : Condition.findReady? (status.amend amendment first).conditions =
      some (status.amendedReady amendment first) := by
    rw [amend, unissued]
    exact Condition.findReady?_putReady (status.isReadyKind_amendedReady amendment first) _
  have same : (status.amendedReady amendment first).status = amendment.status := rfl
  have time := Condition.transitionTime_of_same same rfl later
  rw [amendedReady, found, time]
  rfl

/-- An amendment that is made once is not made again. -/
theorem amend_amend (first later : String) :
    (status.amend amendment first).amend amendment later = status.amend amendment first := by
  by_cases issued : status.isIssued = true
  · simp [amend, issued]
  · have unissued := Bool.eq_false_iff.mpr issued
    have ready := status.amendedReady_amend amendment unissued first later
    have kind := status.isReadyKind_amendedReady amendment first
    by_cases stored : (status.amend amendment first).isIssued = true
    · rw [amend, if_pos stored]
    · rw [amend, if_neg stored, ready]
      simp [amend, issued, Condition.putReady_putReady kind]

/-- The amended Ready condition depends on the first Ready condition only. -/
@[simp] theorem amendedReady_owned (stamp : String) :
    status.owned.amendedReady amendment stamp = status.amendedReady amendment stamp := by
  simp [amendedReady, owned, Condition.findReady?_filter]

/-- An amendment does not look at the conditions of others. -/
theorem owned_amend (stamp : String) :
    (status.amend amendment stamp).owned = status.owned.amend amendment stamp := by
  by_cases issued : status.isIssued = true
  · simp [amend, issued]
  · have kind := status.isReadyKind_amendedReady amendment stamp
    simp only [amend, isIssued_owned, issued, amendedReady_owned]
    simp [owned, Condition.putReady_filter kind]

/-- Projection does not look at the conditions of others. -/
theorem owned_apply (update : StatusUpdate) (stamp : String) :
    (status.apply update stamp).owned = status.owned.apply update stamp := by
  rw [← amend_amendment, owned_amend, amend_amendment]

@[simp] theorem owned_owned : status.owned.owned = status.owned := by
  simp [owned, List.filter_filter]

end CertificateRequestStatus

/-- A request without a status is amended like one with an empty status. -/
def amended (current : Option CertificateRequestStatus) (amendment : Amendment) (stamp : String) :
    CertificateRequestStatus :=
  (current.getD {}).amend amendment stamp

/-- A decision is projected as its amendment. -/
theorem amended_amendment (current : Option CertificateRequestStatus) (update : StatusUpdate)
    (stamp : String) : amended current update.amendment stamp = project current update stamp :=
  CertificateRequestStatus.amend_amendment _ update stamp

end Issuance
