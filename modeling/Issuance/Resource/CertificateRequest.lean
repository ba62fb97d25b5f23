import Issuance.Encoding.Base64
import Issuance.Resource.Condition
import Issuance.Resource.Metadata
import Issuance.Text.Blank

namespace Issuance

/-- A reference to an issuer by name, with an optional kind and group. -/
structure IssuerReference where
  name : String
  kind : Option String := none
  group : Option String := none
  deriving DecidableEq, Repr, Inhabited

namespace IssuerReference

def fieldNames : List String := ["name", "kind", "group"]

def toJson (reference : IssuerReference) : Json :=
  .record <|
    [("name", .text reference.name)] ++
    Json.optional "kind" .text reference.kind ++
    Json.optional "group" .text reference.group

def ofJson? (json : Json) : Option IssuerReference := do
  let members ← json.asFields fieldNames
  let name ← Json.required "name" Json.asText members
  let kind ← Json.nullable "kind" Json.asText members
  let group ← Json.nullable "group" Json.asText members
  return { name, kind, group }

end IssuerReference

/-- What a request asks for. -/
structure CertificateRequestSpec where
  request : String
  issuerRef : IssuerReference
  duration : Option String := none
  usages : Option (List String) := none
  isCa : Bool := false
  deriving DecidableEq, Repr, Inhabited

namespace CertificateRequestSpec

def fieldNames : List String := ["request", "issuerRef", "duration", "usages", "isCA"]

def toJson (spec : CertificateRequestSpec) : Json :=
  .record <|
    [("request", .text spec.request), ("issuerRef", spec.issuerRef.toJson)] ++
    Json.optional "duration" .text spec.duration ++
    Json.optional "usages" (Json.ofList .text) spec.usages ++
    [("isCA", .bool spec.isCa)]

def ofJson? (json : Json) : Option CertificateRequestSpec := do
  let members ← json.asFields fieldNames
  let request ← Json.required "request" Json.asText members
  let issuerRef ← Json.required "issuerRef" IssuerReference.ofJson? members
  let duration ← Json.nullable "duration" Json.asText members
  let usages ← Json.nullable "usages" (Json.asList Json.asText) members
  let isCa ← Json.defaulted "isCA" Json.asBool false members
  return { request, issuerRef, duration, usages, isCa }

end CertificateRequestSpec

/-- How far a request has come. -/
structure CertificateRequestStatus where
  conditions : List Condition := []
  certificate : Option String := none
  ca : Option String := none
  failureTime : Option String := none
  deriving DecidableEq, Repr, Inhabited

namespace CertificateRequestStatus

def fieldNames : List String := ["conditions", "certificate", "ca", "failureTime"]

def toJson (status : CertificateRequestStatus) : Json :=
  .record <|
    [("conditions", Json.ofList Condition.toJson status.conditions)] ++
    Json.optional "certificate" .text status.certificate ++
    Json.optional "ca" .text status.ca ++
    Json.optional "failureTime" .text status.failureTime

def ofJson? (json : Json) : Option CertificateRequestStatus := do
  let members ← json.asFields fieldNames
  let conditions ← Json.defaulted "conditions" (Json.asList Condition.ofJson?) [] members
  let certificate ← Json.nullable "certificate" Json.asText members
  let ca ← Json.nullable "ca" Json.asText members
  let failureTime ← Json.nullable "failureTime" Json.asText members
  return { conditions, certificate, ca, failureTime }

end CertificateRequestStatus

structure CertificateRequest where
  metadata : Metadata
  spec : CertificateRequestSpec
  status : Option CertificateRequestStatus := none
  deriving Inhabited

namespace CertificateRequest

/-- The group that certificate requests belong to. -/
def apiGroup : String := "cert-manager.io"

/-- The group with its version. -/
def apiVersion : String := "cert-manager.io/v1"

def kindName : String := "CertificateRequest"

/-- The group of the issuers that this controller serves. -/
def issuerGroup : String := "awspca.cert-manager.io"

/-- The annotation that holds the certificate identifier which the authority assigned. -/
def arnKey : String := "aws-privateca-issuer/certificate-arn"

def readyCondition? (request : CertificateRequest) : Option Condition :=
  request.status.bind fun status => Condition.findReady? status.conditions

/-- The first Ready condition has the given status and reason. -/
def hasReady (request : CertificateRequest) (status : ConditionStatus) (reason : String) : Bool :=
  match request.readyCondition? with
  | none => false
  | some condition => condition.status == status && condition.reason == some reason

/-- The certificate is stored on the request. -/
def isIssued (request : CertificateRequest) : Bool :=
  request.hasReady .true Condition.issuedReason

/-- The issuance failed for good. -/
def isFailed (request : CertificateRequest) : Bool :=
  request.hasReady .false Condition.failedReason

/-- A request without a group is meant for this controller. -/
def isOurs (request : CertificateRequest) : Bool :=
  match request.spec.issuerRef.group with
  | none => true
  | some group => group == "" || group == issuerGroup

/-- The certificate identifier, which counts only when it is not empty. -/
def certificateArn? (request : CertificateRequest) : Option String :=
  (request.metadata.annotation? arnKey).filter fun arn => arn ≠ ""

/-- The bytes of the signing request, where blanks around the base64 do not count. -/
def signingRequest (request : CertificateRequest) : Except Base64.Fault (List UInt8) :=
  Base64.decodeText (Text.trim request.spec.request)

def fieldNames : List String := ["metadata", "spec", "status"]

def toJson (request : CertificateRequest) : Json :=
  .record <|
    [("apiVersion", .text apiVersion), ("kind", .text kindName),
      ("metadata", request.metadata.toJson), ("spec", request.spec.toJson)] ++
    Json.optional "status" CertificateRequestStatus.toJson request.status

def ofJson? (json : Json) : Option CertificateRequest := do
  let members ← json.asFields fieldNames
  let metadata ← Json.required "metadata" Metadata.ofJson? members
  let spec ← Json.required "spec" CertificateRequestSpec.ofJson? members
  let status ← Json.nullable "status" CertificateRequestStatus.ofJson? members
  return { metadata, spec, status }

end CertificateRequest

end Issuance
