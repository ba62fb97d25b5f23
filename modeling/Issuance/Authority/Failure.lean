import Issuance.Authority.Key
import Issuance.Text.Quoted

namespace Issuance

/-- A reason why an authority does not deliver. -/
inductive ProvisionerFailure where
  | inProgress
  | configuration (reason : String)
  | api (reason : String)
  deriving DecidableEq, Repr, Inhabited

namespace ProvisionerFailure

def message : ProvisionerFailure → String
  | inProgress => "certificate issuance is still in progress"
  | configuration reason => "invalid configuration: " ++ reason
  | api reason => reason

/-- The authority has accepted the request and not finished yet. -/
def isInProgress : ProvisionerFailure → Bool
  | inProgress => true
  | _ => false

end ProvisionerFailure

/-- A reason why a reconciliation fails. -/
inductive ReconcileFailure where
  | unknownIssuerKind (kind : String)
  | authorityNotFound (key : AuthorityKey)
  | authorityNotReady (key : AuthorityKey)
  | provisioner (failure : ProvisionerFailure)
  | sign (failure : ProvisionerFailure)
  | get (failure : ProvisionerFailure)
  | invalidRequest (reason : String)
  | reconciliationFailed (reason : String)
  deriving DecidableEq, Repr, Inhabited

namespace ReconcileFailure

def name : ReconcileFailure → String
  | unknownIssuerKind _ => "UnknownIssuerKind"
  | authorityNotFound _ => "AuthorityNotFound"
  | authorityNotReady _ => "AuthorityNotReady"
  | provisioner _ => "Provisioner"
  | sign _ => "Sign"
  | get _ => "Get"
  | invalidRequest _ => "InvalidRequest"
  | reconciliationFailed _ => "ReconciliationFailed"

def message : ReconcileFailure → String
  | unknownIssuerKind kind => s!"issuer kind {Text.quote kind} is not supported"
  | authorityNotFound key => s!"{key.text} not found"
  | authorityNotReady key => s!"{key.text} is not ready"
  | provisioner failure => "failed to create provisioner: " ++ failure.message
  | sign failure => "failed to request certificate from PCA: " ++ failure.message
  | get failure => "failed to retrieve certificate from PCA: " ++ failure.message
  | invalidRequest reason => "invalid certificate request: " ++ reason
  | reconciliationFailed reason => "Reconciliation failed: " ++ reason

/-- The wording of what caused a failure. -/
def cause? : ReconcileFailure → Option String
  | provisioner failure => some failure.message
  | sign failure => some failure.message
  | get failure => some failure.message
  | reconciliationFailed reason => some reason
  | _ => none

end ReconcileFailure

namespace AuthorityKey

/-- The key that a request refers to, where namespaced issuers live beside the request. -/
def ofRequest (request : CertificateRequest) : Except ReconcileFailure AuthorityKey :=
  let reference := request.spec.issuerRef
  match IssuerKind.ofReference? reference.kind with
  | none => .error (.unknownIssuerKind (reference.kind.getD ""))
  | some .issuer => .ok (issuer (request.metadata.namespaceName.getD "") reference.name)
  | some .clusterIssuer => .ok (clusterIssuer reference.name)

end AuthorityKey

end Issuance
