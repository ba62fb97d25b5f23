import Issuance.Authority.Failure
import Issuance.PrivateCa.SigningRequest
import Issuance.PrivateCa.Template
import Issuance.Time.DurationText

namespace Issuance.PrivateCa

/-- A certificate is valid for 90 days unless the request says otherwise. -/
def standardLifetime : Span := .ofSeconds 7776000

def requestedLifetime (duration : Option String) : Except ProvisionerFailure Span :=
  match duration with
  | none => .ok standardLifetime
  | some "" => .ok standardLifetime
  | some text =>
    match DurationText.parse text with
    | .error fault => .error (.configuration ("spec.duration: " ++ fault.message))
    | .ok span => .ok span

/-- The greatest number of 64 bits with a sign. -/
def greatestSecond : Int := Int64.maxValue.toInt

/-- The last second of a certificate stays within 64 bits with a sign. -/
def validityEnd (now : Int) (lifetime : Span) : Int :=
  min (now + min (lifetime.seconds : Int) greatestSecond) greatestSecond

/-- Everything that the authority is told about a certificate. -/
structure Order where
  authorityArn : String
  signingRequest : List UInt8
  key : KeyAlgorithm
  templateArn : String
  validityEnd : Int
  deriving DecidableEq, Repr

namespace Order

/-- The bytes of the signing request, or the failure that they cannot be read. -/
def readSigningRequest (request : CertificateRequest) :
    Except ProvisionerFailure (List UInt8) :=
  match request.signingRequest with
  | .error fault => .error (.configuration ("spec.request is not valid base64: " ++ fault.message))
  | .ok bytes => .ok bytes

/-- The algorithm of the key in a signing request, or the failure that there is none. -/
def readKey (bytes : List UInt8) : Except ProvisionerFailure KeyAlgorithm :=
  match keyAlgorithm bytes with
  | .error fault => .error (.configuration fault.message)
  | .ok key => .ok key

/-- An order is made only from a request that is valid throughout. -/
def ofRequest (authorityArn : String) (now : Int) (request : CertificateRequest) :
    Except ProvisionerFailure Order := do
  let signingRequest ← readSigningRequest request
  let key ← readKey signingRequest
  let lifetime ← requestedLifetime request.spec.duration
  return {
    authorityArn, signingRequest, key
    templateArn :=
      PrivateCa.templateArn authorityArn request.spec.isCa (request.spec.usages.getD [])
    validityEnd := PrivateCa.validityEnd now lifetime }

end Order

end Issuance.PrivateCa
