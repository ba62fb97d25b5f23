import Issuance.PrivateCa.Chain
import Issuance.Resource.CertificateRequest

namespace Issuance

/-- A decision about a request. -/
inductive StatusUpdate where
  | pending (message : String)
  | failed (message : String)
  | issued (certificate : IssuedCertificate)
  deriving DecidableEq, Repr, Inhabited

namespace StatusUpdate

/-- Only an issued request is ready. -/
def status : StatusUpdate → ConditionStatus
  | pending _ => .false
  | failed _ => .false
  | issued _ => .true

def reason : StatusUpdate → String
  | pending _ => Condition.pendingReason
  | failed _ => Condition.failedReason
  | issued _ => Condition.issuedReason

def message : StatusUpdate → String
  | pending message => message
  | failed message => message
  | issued _ => "certificate issued"

/-- Every decision but the last one is a warning. -/
def isWarning (update : StatusUpdate) : Bool := update.status == .false

end StatusUpdate

namespace Condition

/-- The condition says that the certificate is stored. -/
def isIssued (condition : Condition) : Bool :=
  condition.isReadyKind && condition.status == .true && condition.reason == some issuedReason

/-- The first Ready condition is replaced where it stands, and a new one comes last. -/
def putReady (ready : Condition) : List Condition → List Condition
  | [] => [ready]
  | condition :: conditions =>
    if condition.isReadyKind then ready :: conditions else condition :: putReady ready conditions

/-- The time of the last transition is kept while the status stays the same. -/
def transitionTime (previous : Option Condition) (status : ConditionStatus) (stamp : String) :
    String :=
  ((previous.filter fun condition => condition.status == status).bind
    Condition.lastTransitionTime).getD stamp

end Condition

namespace CertificateRequestStatus

/-- One of the conditions says that the certificate is stored. -/
def isIssued (status : CertificateRequestStatus) : Bool :=
  status.conditions.any Condition.isIssued

/-- The Ready condition of a decision that is made at the time of a stamp. -/
def readyCondition (status : CertificateRequestStatus) (update : StatusUpdate) (stamp : String) :
    Condition :=
  { Condition.ready update.status update.reason update.message with
    lastTransitionTime := some
      (Condition.transitionTime (Condition.findReady? status.conditions) update.status stamp) }

/-- A decision changes the Ready condition and what belongs to it. Once the certificate is stored,
nothing changes. -/
def apply (status : CertificateRequestStatus) (update : StatusUpdate) (stamp : String) :
    CertificateRequestStatus :=
  if status.isIssued then status
  else
    let conditions := Condition.putReady (status.readyCondition update stamp) status.conditions
    match update with
    | .pending _ => { status with conditions }
    | .failed _ => { status with conditions, failureTime := status.failureTime <|> some stamp }
    | .issued issued =>
      { status with
        conditions
        certificate := some (Base64.encodeText issued.certificate)
        ca := some (Base64.encodeText issued.ca) }

/-- The part of a status that this controller writes. -/
def owned (status : CertificateRequestStatus) : CertificateRequestStatus :=
  { status with conditions := status.conditions.filter Condition.isReadyKind }

end CertificateRequestStatus

/-- A request without a status starts from an empty one. -/
def project (current : Option CertificateRequestStatus) (update : StatusUpdate) (stamp : String) :
    CertificateRequestStatus :=
  (current.getD {}).apply update stamp

end Issuance
