import Issuance.Authority.Exchange
import Issuance.PrivateCa.Chain
import Issuance.PrivateCa.Order

namespace Issuance.PrivateCa

inductive Call where
  | issueCertificate (order : Order)
  | getCertificate (authorityArn certificateArn : String)
  deriving DecidableEq, Repr

namespace Call

def target : Call → String
  | issueCertificate _ => "ACMPrivateCA.IssueCertificate"
  | getCertificate _ _ => "ACMPrivateCA.GetCertificate"

/-- Every order carries the same token. -/
def idempotencyToken : String := "awspca"

def body : Call → Json
  | issueCertificate order =>
    .record [
      ("CertificateAuthorityArn", .text order.authorityArn),
      ("Csr", .text (Base64.encodeText order.signingRequest)),
      ("SigningAlgorithm", .text order.key.signing),
      ("TemplateArn", .text order.templateArn),
      ("Validity", .record
        [("Value", .integer order.validityEnd), ("Type", .text "ABSOLUTE")]),
      ("IdempotencyToken", .text idempotencyToken)]
  | getCertificate authorityArn certificateArn =>
    .record [
      ("CertificateAuthorityArn", .text authorityArn),
      ("CertificateArn", .text certificateArn)]

end Call

/-- A reply is a success, an error with a code, or nothing that can be read. -/
inductive Reply where
  | success (certificateArn certificate chain : Option String)
  | serviceError (code : String)
  | unreadable
  deriving DecidableEq, Repr, Inhabited

namespace Reply

/-- A code may follow the name of its service and precede an address. -/
def errorName (code : String) : String :=
  let name := code.toList.takeWhile (· ≠ ':')
  match name.dropWhile (· ≠ '#') with
  | [] => String.ofList name
  | _ :: rest => String.ofList rest

/-- The authority has not finished the certificate. -/
def isInProgress : Reply → Bool
  | serviceError code => errorName code == "RequestInProgressException"
  | _ => false

end Reply

/-- Errors of the service are reported without their details. -/
def serviceFailure : ProvisionerFailure := .api "<sdk>"

def concludeOrder : Reply → Except ProvisionerFailure String
  | .success (some certificateArn) _ _ =>
    if certificateArn.isEmpty then .error (.api "IssueCertificate returned no certificate ARN")
    else .ok certificateArn
  | .success none _ _ => .error (.api "IssueCertificate returned no certificate ARN")
  | _ => .error serviceFailure

def concludeCollection (certificateArn : String) (reply : Reply) :
    Except ProvisionerFailure IssuedCertificate :=
  match reply with
  | .success _ certificate chain =>
    if (certificate.getD "").isEmpty then
      .error (.api s!"GetCertificate returned no certificate for {certificateArn}")
    else assemble (certificate.getD "") (chain.getD "")
  | other => if other.isInProgress then .error .inProgress else .error serviceFailure

/-- The authority is asked for a certificate only when the order is complete. -/
def sign (authorityArn : String) (now : Int) (request : CertificateRequest) :
    Exchange Call Reply ProvisionerFailure String :=
  match Order.ofRequest authorityArn now request with
  | .error failure => .settled (.error failure)
  | .ok order => .ask (.issueCertificate order) concludeOrder

/-- The authority is always asked for a certificate that was ordered. -/
def collect (authorityArn certificateArn : String) :
    Exchange Call Reply ProvisionerFailure IssuedCertificate :=
  .ask (.getCertificate authorityArn certificateArn) (concludeCollection certificateArn)

end Issuance.PrivateCa
