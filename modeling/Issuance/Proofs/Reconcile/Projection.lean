import Issuance.Cluster.Store
import Issuance.Proofs.Reconcile.Amendment
import Issuance.Reconcile.Reconcile

/- Of a status, decisions see and change only the part that this controller writes. -/
namespace Issuance

namespace Condition

/-- The condition is a Ready condition with a status and a reason. -/
def IsReady (condition : Condition) (status : ConditionStatus) (reason : String) : Prop :=
  condition.isReadyKind = true ∧ condition.status = status ∧ condition.reason = some reason

instance (condition : Condition) (status : ConditionStatus) (reason : String) :
    Decidable (condition.IsReady status reason) :=
  inferInstanceAs (Decidable (_ ∧ _ ∧ _))

end Condition

namespace CertificateRequestStatus

/-- One of the conditions is a Ready condition with a status and a reason. -/
def Says (status : CertificateRequestStatus) (ready : ConditionStatus) (reason : String) : Prop :=
  ∃ condition ∈ status.conditions, condition.IsReady ready reason

instance (status : CertificateRequestStatus) (ready : ConditionStatus) (reason : String) :
    Decidable (status.Says ready reason) :=
  inferInstanceAs (Decidable (∃ condition ∈ status.conditions, _))

variable (status : CertificateRequestStatus) (update : StatusUpdate) (stamp : String)

theorem isReadyKind_readyCondition :
    (status.readyCondition update stamp).isReadyKind = true := by
  simp [readyCondition, Condition.ready, Condition.isReadyKind]

/-- The Ready condition of a decision says what was decided. -/
theorem isReady_readyCondition :
    (status.readyCondition update stamp).IsReady update.status update.reason :=
  ⟨status.isReadyKind_readyCondition update stamp, rfl, rfl⟩

/-- What the status says of Ready does not depend on the conditions of others. -/
theorem says_owned {status : CertificateRequestStatus} {ready : ConditionStatus} {reason : String} :
    status.owned.Says ready reason ↔ status.Says ready reason := by
  constructor
  · rintro ⟨condition, member, stated⟩
    exact ⟨condition, (List.mem_filter.mp member).1, stated⟩
  · rintro ⟨condition, member, stated⟩
    exact ⟨condition, List.mem_filter.mpr ⟨member, stated.1⟩, stated⟩

/-- A written status brings all that this controller writes. -/
@[simp] theorem owned_merge (written : CertificateRequestStatus) :
    (status.merge written).owned = written.owned := by
  simp [merge, owned, List.filter_filter]

end CertificateRequestStatus

namespace CertificateRequest

variable (request : CertificateRequest)

/-- The part of the status that this controller writes. -/
def ownStatus : CertificateRequestStatus := (request.status.getD {}).owned

/-- What others leave alone on a request: its annotations, its specification and the part of its
status that this controller writes. -/
def ownPart : Option (List (String × String)) × CertificateRequestSpec × CertificateRequestStatus :=
  (request.metadata.annotations, request.spec, request.ownStatus)

/-- No two conditions of the request are Ready conditions. -/
def HasSingleReady : Prop := (request.ownStatus.conditions).length ≤ 1

@[simp] theorem ownStatus_annotateArn (arn : String) :
    (request.annotateArn arn).ownStatus = request.ownStatus := rfl

@[simp] theorem ownStatus_mergeStatus (written : CertificateRequestStatus) :
    (request.mergeStatus written).ownStatus = written.owned := by
  simp [ownStatus, mergeStatus]

theorem readyCondition?_eq :
    request.readyCondition? = Condition.findReady? request.ownStatus.conditions := by
  cases found : request.status with
  | none =>
      simp [readyCondition?, ownStatus, found, CertificateRequestStatus.owned,
        Condition.findReady?]
  | some status =>
      simp [readyCondition?, ownStatus, found, CertificateRequestStatus.owned,
        Condition.findReady?_filter]

/-- The own status is made of Ready conditions only. -/
theorem isReadyKind_of_mem :
    ∀ condition ∈ request.ownStatus.conditions, condition.isReadyKind = true :=
  fun _ member => (List.mem_filter.mp member).2

theorem owned_project (update : StatusUpdate) (stamp : String) :
    (project request.status update stamp).owned = request.ownStatus.apply update stamp :=
  CertificateRequestStatus.owned_apply _ update stamp

/-- Whatever request a decision is merged into, it gets the own status of the decision. -/
theorem ownStatus_mergeStatus_project (current : CertificateRequest) (update : StatusUpdate)
    (stamp : String) :
    (current.mergeStatus (project request.status update stamp)).ownStatus =
      request.ownStatus.apply update stamp := by
  rw [ownStatus_mergeStatus, owned_project]

variable {request} {other : CertificateRequest}

theorem certificateArn?_congr (same : other.ownPart = request.ownPart) :
    other.certificateArn? = request.certificateArn? := by
  simp only [ownPart, Prod.mk.injEq] at same
  simp [certificateArn?, Metadata.annotation?, same.1]

theorem isSettled_congr (same : other.ownPart = request.ownPart) :
    Reconcile.isSettled other = Reconcile.isSettled request := by
  simp only [ownPart, Prod.mk.injEq] at same
  simp only [Reconcile.isSettled, isOurs, isIssued, isFailed, hasReady, readyCondition?_eq,
    same.2.1, same.2.2]

/-- A request that is not settled is neither issued nor failed. -/
theorem isIssued_eq_false (unsettled : Reconcile.isSettled request = false) :
    request.isIssued = false := by
  simp only [Reconcile.isSettled, Bool.or_eq_false_iff] at unsettled
  exact unsettled.1.2

theorem isFailed_eq_false (unsettled : Reconcile.isSettled request = false) :
    request.isFailed = false := by
  simp only [Reconcile.isSettled, Bool.or_eq_false_iff] at unsettled
  exact unsettled.2

/-- The own status has no condition, or its only one is a Ready condition. -/
theorem HasSingleReady.conditions_cases (single : request.HasSingleReady) :
    request.ownStatus.conditions = [] ∨
      ∃ condition, request.ownStatus.conditions = [condition] ∧ condition.isReadyKind = true := by
  have kinds := request.isReadyKind_of_mem
  unfold HasSingleReady at single
  cases found : request.ownStatus.conditions with
  | nil => exact .inl rfl
  | cons condition rest =>
    rw [found] at single kinds
    have last : rest = [] := by simpa using single
    exact .inr ⟨condition, by rw [last], kinds condition List.mem_cons_self⟩

/-- With at most one Ready condition, the first one and any one are the same. -/
theorem HasSingleReady.isIssued_ownStatus (single : request.HasSingleReady) :
    request.ownStatus.isIssued = request.isIssued := by
  simp only [CertificateRequestStatus.isIssued, isIssued, hasReady, readyCondition?_eq]
  obtain found | ⟨condition, found, kind⟩ := single.conditions_cases
  · simp [found, Condition.findReady?]
  · simp [found, Condition.findReady?, kind, Condition.isIssued]

/-- With at most one Ready condition, the first one speaks for the status. -/
theorem HasSingleReady.says_iff (single : request.HasSingleReady) {ready : ConditionStatus}
    {reason : String} :
    (request.status.getD {}).Says ready reason ↔ request.hasReady ready reason = true := by
  rw [← CertificateRequestStatus.says_owned, hasReady, readyCondition?_eq]
  change request.ownStatus.Says ready reason ↔ _
  obtain found | ⟨condition, found, kind⟩ := single.conditions_cases
  · simp [CertificateRequestStatus.Says, found, Condition.findReady?]
  · simp [CertificateRequestStatus.Says, found, Condition.findReady?, kind, Condition.IsReady]

/-- A new Ready condition takes the place of the only one. -/
theorem HasSingleReady.putReady (single : request.HasSingleReady) (ready : Condition) :
    Condition.putReady ready request.ownStatus.conditions = [ready] := by
  obtain found | ⟨condition, found, kind⟩ := single.conditions_cases
  · rw [found]
    rfl
  · simp [found, Condition.putReady, kind]

/-- A decision leaves its own Ready condition and no other one. -/
theorem HasSingleReady.conditions_apply (single : request.HasSingleReady)
    (unissued : request.isIssued = false) (update : StatusUpdate) (stamp : String) :
    (request.ownStatus.apply update stamp).conditions =
      [request.ownStatus.readyCondition update stamp] := by
  rw [← single.isIssued_ownStatus] at unissued
  cases update <;> simp [CertificateRequestStatus.apply, unissued, single.putReady]

/-- A decision shows in the request on which it is written. -/
theorem readyCondition?_of_decided (single : request.HasSingleReady)
    (unissued : request.isIssued = false) {update : StatusUpdate} {stamp : String}
    (written : other.ownStatus = request.ownStatus.apply update stamp) :
    other.readyCondition? = some (request.ownStatus.readyCondition update stamp) := by
  rw [readyCondition?_eq, written, single.conditions_apply unissued]
  simp [Condition.findReady?, CertificateRequestStatus.isReadyKind_readyCondition]

theorem hasReady_of_decided (single : request.HasSingleReady) (unissued : request.isIssued = false)
    {update : StatusUpdate} {stamp : String}
    (written : other.ownStatus = request.ownStatus.apply update stamp) (status : ConditionStatus)
    (reason : String) :
    other.hasReady status reason = (update.status == status && update.reason == reason) := by
  rw [hasReady, readyCondition?_of_decided single unissued written]
  simp [CertificateRequestStatus.readyCondition, Condition.ready]

end CertificateRequest

end Issuance
