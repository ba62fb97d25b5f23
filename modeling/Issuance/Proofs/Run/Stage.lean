import Issuance.Proofs.Encoding.Base64
import Issuance.Proofs.Run.Commission

namespace Issuance

/-- A call on a private authority. -/
inductive AuthorityCall where
  | sign (provisioner : Provisioner)
  | collect (provisioner : Provisioner) (arn : String)
  deriving DecidableEq

namespace AuthorityCall

def isCollection : AuthorityCall → Bool
  | sign _ => false
  | collect _ _ => true

end AuthorityCall

namespace Observation

def call? : Observation → Option AuthorityCall
  | ⟨.sign provisioner _, _⟩ => some (.sign provisioner)
  | ⟨.collect provisioner _ arn, _⟩ => some (.collect provisioner arn)
  | _ => none

theorem call?_of_isPreparation {observation : Observation}
    (preparation : observation.isPreparation = true) : observation.call? = none := by
  obtain ⟨effect, answer⟩ := observation
  cases effect <;> first | rfl | cases preparation

end Observation

namespace CertificateRequestStatus

/-- The status of a request that waits since a time. -/
def pendingSince (message stamp : String) : CertificateRequestStatus :=
  { conditions :=
      [{ Condition.ready .false Condition.pendingReason message with
          lastTransitionTime := some stamp }] }

/-- The status of a request that got its certificate at a time. -/
def issuedAt (issued : IssuedCertificate) (stamp : String) : CertificateRequestStatus :=
  { conditions :=
      [{ Condition.ready .true Condition.issuedReason (StatusUpdate.issued issued).message with
          lastTransitionTime := some stamp }]
    certificate := some (Base64.encodeText issued.certificate)
    ca := some (Base64.encodeText issued.ca) }

end CertificateRequestStatus

namespace CertificateRequest

/-- The request is pending since a time, and there is no certificate. -/
structure WaitsSince (request : CertificateRequest) (stamp : String) : Prop where
  ready : ∃ condition, request.readyCondition? = some condition ∧
    condition.IsReady .false Condition.pendingReason ∧ condition.lastTransitionTime = some stamp
  certificate : (request.status.getD {}).certificate = none
  ca : (request.status.getD {}).ca = none

structure Holds (request : CertificateRequest) (issued : IssuedCertificate) : Prop where
  ready : request.hasReady .true Condition.issuedReason = true
  certificate : ∃ text, (request.status.getD {}).certificate = some text ∧
    Base64.decodeText text = .ok issued.certificate
  ca : ∃ text, (request.status.getD {}).ca = some text ∧ Base64.decodeText text = .ok issued.ca

variable {request : CertificateRequest}

theorem waitsSince {message stamp : String}
    (status : request.ownStatus = .pendingSince message stamp) : request.WaitsSince stamp where
  ready := by
    rw [readyCondition?_eq, status]
    exact ⟨_, rfl, ⟨rfl, rfl, rfl⟩, rfl⟩
  certificate := congrArg CertificateRequestStatus.certificate status
  ca := congrArg CertificateRequestStatus.ca status

theorem holds {issued : IssuedCertificate} {stamp : String}
    (status : request.ownStatus = .issuedAt issued stamp) : request.Holds issued where
  ready := by
    rw [hasReady, readyCondition?_eq, status]
    rfl
  certificate :=
    ⟨_, congrArg CertificateRequestStatus.certificate status, Base64.decodeText_encodeText _⟩
  ca := ⟨_, congrArg CertificateRequestStatus.ca status, Base64.decodeText_encodeText _⟩

end CertificateRequest

namespace Commission

variable (commission : Commission)

/-- All calls on the authority, from the order to the certificate. -/
def calls (provisioner : Provisioner) : List AuthorityCall :=
  .sign provisioner :: .replicate (commission.polls + 1) (.collect provisioner commission.arn)

/-- How far a request is after some reconciliations. It waits since its order. -/
inductive Stage (stamp : String) : Nat → CertificateRequest → Prop where
  | fresh {request : CertificateRequest} (unordered : request.certificateArn? = none)
      (status : request.ownStatus = {}) : Stage stamp 0 request
  | ordered {polled : Nat} {request : CertificateRequest} (within : polled ≤ commission.polls)
      (ordered : request.certificateArn? = some commission.arn) {message : String}
      (status : request.ownStatus = .pendingSince message stamp) : Stage stamp (polled + 1) request
  | issued {count : Nat} {request : CertificateRequest} (late : commission.polls + 2 ≤ count)
      {moment : String} (status : request.ownStatus = .issuedAt commission.issued moment) :
      Stage stamp count request

variable {commission : Commission} {config : ControllerConfig} {stamp moment : String}
  {request other : CertificateRequest} {count : Nat}

/-- What others leave alone tells how far a request is. -/
theorem Stage.congr (stage : commission.Stage stamp count request)
    (same : other.ownPart = request.ownPart) : commission.Stage stamp count other := by
  have status : other.ownStatus = request.ownStatus := congrArg (·.2.2) same
  have arn := CertificateRequest.certificateArn?_congr same
  cases stage with
  | fresh unordered empty => exact .fresh (arn.trans unordered) (status.trans empty)
  | ordered within ordered waits => exact .ordered within (arn.trans ordered) (status.trans waits)
  | issued late holds => exact .issued late (status.trans holds)

/-- A request that has its certificate keeps it. -/
theorem Stage.succ (stage : commission.Stage stamp count request)
    (late : commission.polls + 2 ≤ count) : commission.Stage stamp (count + 1) request := by
  cases stage with
  | fresh unordered empty => exact absurd late (by omega)
  | ordered within ordered waits => exact absurd late (by omega)
  | issued _ holds => exact .issued (Nat.le_succ_of_le late) holds

theorem Stage.waitsSince (stage : commission.Stage stamp (count + 1) request)
    (early : count ≤ commission.polls) : request.WaitsSince stamp := by
  cases stage with
  | ordered within ordered waits => exact CertificateRequest.waitsSince waits
  | issued late holds => exact absurd late (by omega)

theorem Stage.holds (stage : commission.Stage stamp count request)
    (late : commission.polls + 2 ≤ count) : request.Holds commission.issued := by
  cases stage with
  | fresh unordered empty => exact absurd late (by omega)
  | ordered within ordered waits => exact absurd late (by omega)
  | issued late holds => exact CertificateRequest.holds holds

/-- A request is worked on until it has its certificate. -/
theorem Stage.isSettled (stage : commission.Stage stamp count request)
    (ours : request.isOurs = true) :
    Reconcile.isSettled request = decide (commission.polls + 2 ≤ count) := by
  simp only [Reconcile.isSettled, ours, CertificateRequest.isIssued, CertificateRequest.isFailed,
    CertificateRequest.hasReady, CertificateRequest.readyCondition?_eq]
  cases stage with
  | fresh unordered empty => simp [empty, Condition.findReady?]
  | @ordered polled _ within ordered message waits =>
    have early : ¬commission.polls + 2 ≤ polled + 1 := by omega
    rw [waits, decide_eq_false early]
    rfl
  | issued late holds =>
    rw [holds, decide_eq_true late]
    rfl

/-- The calls before the last one are polls. -/
theorem countP_calls {provisioner : Provisioner} (within : count ≤ commission.polls + 2) :
    ((commission.calls provisioner).take count).countP AuthorityCall.isCollection = count - 1 := by
  cases count with
  | zero => rfl
  | succ polled =>
    have fits : min polled (commission.polls + 1) = polled := by omega
    simp [calls, AuthorityCall.isCollection, List.take_replicate, List.countP_replicate, fits]

@[simp] theorem length_calls (provisioner : Provisioner) :
    (commission.calls provisioner).length = commission.polls + 2 := by
  simp [calls]

theorem calls_succ {provisioner : Provisioner} (within : count ≤ commission.polls) :
    (commission.calls provisioner)[count + 1]? = some (.collect provisioner commission.arn) := by
  have inside : count < commission.polls + 1 := by omega
  simp [calls, inside]

/-- An advance leads to the next stage with the next call. -/
theorem Stage.advance {provisioner : Provisioner} {equipped trace : List Observation}
    {update : StatusUpdate} {decided : Reconcile.Outcome}
    (stage : commission.Stage stamp count request) (early : count < commission.polls + 2)
    (advances : Reconcile.Advances commission config (count - 1) request provisioner equipped trace
      update decided)
    (equips : Reconcile.Equips request provisioner equipped)
    (written : other.ownStatus = request.ownStatus.apply update moment)
    (kept : other.metadata = (Observation.rewriteAll trace request).metadata) :
    commission.Stage (if count = 0 then moment else stamp) (count + 1) other ∧
      trace.filterMap Observation.call? = ((commission.calls provisioner)[count]?).toList ∧
      decided = if count ≤ commission.polls then .ok (.delayed config.issuancePollInterval)
        else .ok .none := by
  have uncalled : equipped.filterMap Observation.call? = [] :=
    List.filterMap_eq_nil_iff.mpr fun observation member =>
      Observation.call?_of_isPreparation (equips.isPreparation observation member)
  have unwritten : Observation.rewriteAll equipped request = request :=
    Observation.rewriteAll_of_isPreparation equips.isPreparation
  have found {current : CertificateRequest} (same : other.metadata = current.metadata) :
      other.certificateArn? = current.certificateArn? := by
    rw [CertificateRequest.certificateArn?, same]
    rfl
  cases stage with
  | fresh unordered empty =>
    cases advances with
    | orders =>
      rw [Observation.rewriteAll_append, unwritten] at kept
      rw [empty] at written
      have ordered := (found kept).trans
        (request.certificateArn?_annotateArn commission.named)
      refine ⟨.ordered (Nat.zero_le _) ordered written, ?_, rfl⟩
      rw [List.filterMap_append, uncalled]
      rfl
    | waits ordered => cases unordered.symm.trans ordered
    | collects ordered => cases unordered.symm.trans ordered
  | @ordered polled _ within ordered message waits =>
    have later : polled + 1 ≠ 0 := Nat.succ_ne_zero polled
    rw [if_neg later, calls_succ within]
    rw [waits] at written
    cases advances with
    | orders unordered => cases unordered.symm.trans ordered
    | waits same soon =>
      obtain rfl := Option.some.inj (same.symm.trans ordered)
      have next : polled + 1 ≤ commission.polls := soon
      rw [Observation.rewriteAll_append, unwritten] at kept
      refine ⟨.ordered next ((found kept).trans ordered) written, ?_, (if_pos next).symm⟩
      rw [List.filterMap_append, uncalled]
      rfl
    | collects same late =>
      obtain rfl := Option.some.inj (same.symm.trans ordered)
      have last : commission.polls ≤ polled := late
      refine ⟨.issued (Nat.add_le_add_right last 2) written, ?_, ?_⟩
      · rw [List.filterMap_append, uncalled]
        rfl
      · rw [if_neg (Nat.not_le_of_lt (Nat.lt_succ_of_le last))]
  | issued late => exact absurd late (Nat.not_le_of_lt early)

end Commission

end Issuance
