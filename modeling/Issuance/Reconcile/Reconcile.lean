import Issuance.Config.Controller
import Issuance.Reconcile.Effect
import Issuance.Reconcile.Requeue

namespace Issuance.Reconcile

/-- A reconciliation fails or says when to look again. -/
abbrev Outcome : Type := Except ReconcileFailure Requeue

/-- The message of a request whose certificate has just been ordered. -/
def orderedMessage : String := "certificate issuance in progress, waiting for AWS Private CA"

/-- The message of a request whose certificate is not there yet. -/
def waitingMessage : String := "certificate not yet issued by AWS Private CA"

/-- The authority under a key. -/
def lookUp (key : AuthorityKey) : Program (StoreAnswer (Option Authority)) :=
  match key.kind, key.namespaceName with
  | .issuer, some namespaceName => do
    let answer ← Program.ask (.readIssuer namespaceName key.name)
    return answer.map (Option.map Authority.issuer)
  | _, _ => do
    let answer ← Program.ask (.readClusterIssuer key.name)
    return answer.map (Option.map Authority.clusterIssuer)

/-- An authority has to be there and to be ready. -/
def checkAuthority (key : AuthorityKey) :
    StoreAnswer (Option Authority) → Except ReconcileFailure Authority
  | .error _ => .error (.reconciliationFailed ("Failed to load " ++ key.text))
  | .ok none => .error (.authorityNotFound key)
  | .ok (some authority) =>
    if authority.isReady then .ok authority else .error (.authorityNotReady key)

/-- The authority that a request refers to. -/
def resolve (request : CertificateRequest) : Program (Except ReconcileFailure Authority) :=
  match AuthorityKey.ofRequest request with
  | .error failure => return .error failure
  | .ok key => return checkAuthority key (← lookUp key)

/-- A build fills its slot, or it leaves the slot to the next caller. -/
def build (slot : Nat) (key : AuthorityKey) (spec : IssuerSpec) :
    Program (Except ProvisionerFailure Provisioner) := do
  let number ← Program.ask (.startBuild key spec)
  let provisioner : Provisioner := ⟨number, key, spec⟩
  match ← Program.ask (.finishBuild provisioner) with
  | .error failure =>
    Program.ask (.settleSlot slot none)
    return .error failure
  | .ok _ =>
    Program.ask (.settleSlot slot (some provisioner))
    return .ok provisioner

/-- The provisioner of an authority, which is built only when there is none. -/
def provisionerFor (key : AuthorityKey) (spec : IssuerSpec) :
    Program (Except ProvisionerFailure Provisioner) := do
  let slot ← Program.ask (.enterSlot key spec)
  match ← Program.ask (.acquireSlot slot) with
  | some provisioner => return .ok provisioner
  | none => build slot key spec

/-- An event follows a status that was written. -/
def writeStatus (request : CertificateRequest) (update : StatusUpdate) :
    Program (Except ReconcileFailure Unit) := do
  let stamp ← Program.ask .stamp
  match ← Program.ask (.writeStatus request (project request.status update stamp)) with
  | .error reason => return .error (.reconciliationFailed reason)
  | .ok _ =>
    Program.ask (.publish (request.event update))
    return .ok ()

/-- A decision is written before its outcome is reported. -/
def settle (request : CertificateRequest) (update : StatusUpdate) (outcome : Outcome) :
    Program Outcome := do
  match ← writeStatus request update with
  | .error failure => return .error failure
  | .ok _ => return outcome

/-- The request waits, and the failure sets its next try. -/
def postpone (request : CertificateRequest) (failure : ReconcileFailure) : Program Outcome :=
  settle request (.pending failure.message) (.error failure)

/-- The request has failed for good. -/
def reject (request : CertificateRequest) (failure : ReconcileFailure) : Program Outcome :=
  settle request (.failed failure.message) (.error failure)

/-- The request is looked at again after the poll interval. -/
def poll (config : ControllerConfig) (request : CertificateRequest) (message : String) :
    Program Outcome :=
  settle request (.pending message) (.ok (.delayed config.issuancePollInterval))

/-- The identifier of an ordered certificate is stored before anything else. -/
def recordOrder (config : ControllerConfig) (request : CertificateRequest) (arn : String) :
    Program Outcome := do
  match ← Program.ask (.annotate request arn) with
  | .error reason => return .error (.reconciliationFailed reason)
  | .ok _ => poll config request orderedMessage

def sign (config : ControllerConfig) (request : CertificateRequest) (provisioner : Provisioner) :
    Program Outcome :=
  match request.signingRequest with
  | .error fault =>
    reject request (.invalidRequest ("spec.request is not valid base64: " ++ fault.message))
  | .ok _ => do
    match ← Program.ask (.sign provisioner request) with
    | .error failure => reject request (.sign failure)
    | .ok arn => recordOrder config request arn

/-- A certificate and its root both have to hold something. -/
def checkIssued (issued : IssuedCertificate) : Except ProvisionerFailure IssuedCertificate :=
  if issued.certificate.isEmpty || issued.ca.isEmpty then
    .error (.api "AWS Private CA returned an empty certificate or chain")
  else .ok issued

def collect (config : ControllerConfig) (request : CertificateRequest) (provisioner : Provisioner)
    (arn : String) : Program Outcome := do
  let answer ← Program.ask (.collect provisioner request arn)
  match answer.bind checkIssued with
  | .ok issued => settle request (.issued issued) (.ok .none)
  | .error .inProgress => poll config request waitingMessage
  | .error failure => reject request (.get failure)

/-- A request with an identifier is collected, and any other one is ordered. -/
def advance (config : ControllerConfig) (request : CertificateRequest) (authority : Authority) :
    Program Outcome := do
  match ← provisionerFor authority.key authority.spec with
  | .error failure => reject request (.provisioner failure)
  | .ok provisioner =>
    match request.certificateArn? with
    | none => sign config request provisioner
    | some arn => collect config request provisioner arn

/-- Requests for others and finished requests are left alone. -/
def isSettled (request : CertificateRequest) : Bool :=
  !request.isOurs || request.isIssued || request.isFailed

/-- The reconciliation of a request that was read. -/
def proceed (config : ControllerConfig) (request : CertificateRequest) : Program Outcome := do
  match ← resolve request with
  | .error failure => postpone request failure
  | .ok authority => advance config request authority

/-- A request is read anew each time. -/
def reconcile (config : ControllerConfig) (namespaceName name : String) : Program Outcome := do
  match ← Program.ask (.readRequest namespaceName name) with
  | .error reason => return .error (.reconciliationFailed reason)
  | .ok none => return .ok .none
  | .ok (some request) =>
    if isSettled request then return .ok .none else proceed config request

end Issuance.Reconcile
