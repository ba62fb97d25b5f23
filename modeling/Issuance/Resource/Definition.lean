import Issuance.Encoding.Yaml
import Issuance.Resource.CertificateRequest
import Issuance.Resource.Issuer
import Issuance.Resource.Schema

namespace Issuance

def Condition.schema : Schema :=
  (Schema.record ["status", "type"]
    [("lastTransitionTime", (Schema.text "Last transition time (RFC3339)").orNull),
      ("message", (Schema.text "Human-readable message").orNull),
      ("reason", (Schema.text "Machine-readable reason for the condition").orNull),
      ("status", { Schema.text "Status of the condition (True, False, Unknown)" with
        names := ["True", "False", "Unknown"] }),
      ("type", Schema.text "Type of condition")]).describe
    "Condition represents a condition of a resource"

/-- The schema of a list of conditions, which is empty unless it is given. -/
def Condition.listSchema : Schema :=
  { Schema.listOf Condition.schema with standard := some (.list []) }

def KeySelector.schema (description : String) : Schema :=
  ((Schema.record ["key"] [("key", Schema.bareText)]).describe description).orNull

def SecretReference.schema : Schema :=
  let accessKey :=
    KeySelector.schema "Key holding the access key id. Defaults to \x60AWS_ACCESS_KEY_ID\x60."
  let secretKey :=
    KeySelector.schema
      "Key holding the secret access key. Defaults to \x60AWS_SECRET_ACCESS_KEY\x60."
  let place := Schema.text
    "Defaults to the issuer namespace (or the controller namespace for cluster issuers)"
  (Schema.record ["name"]
    [("accessKeyIDSelector", accessKey), ("name", Schema.bareText),
      ("namespace", place.orNull), ("secretAccessKeySelector", secretKey)]).describe
    ("Secret holding static AWS credentials. When unset the default credential\n" ++
      "chain (IRSA, instance profile) is used.")

def IssuerSpec.schema (description : String) : Schema :=
  (Schema.record ["arn"]
    [("arn", Schema.text "ARN of the AWS Private CA that signs requests for this issuer"),
      ("region", (Schema.text
        "AWS region of the CA. Falls back to the SDK default region when unset.").orNull),
      ("secretRef", SecretReference.schema.orNull)]).describe description

def IssuerStatus.schema : Schema :=
  ((Schema.record [] [("conditions", Condition.listSchema)]).describe
    "Issuer status, written by the issuer health controller").orNull

def IssuerReference.schema : Schema :=
  (Schema.record ["name"]
    [("group", Schema.bareText.orNull), ("kind", Schema.bareText.orNull),
      ("name", Schema.bareText)]).describe
    "Reference to the issuer responsible for this request"

def CertificateRequestSpec.schema : Schema :=
  (Schema.record ["issuerRef", "request"]
    [("duration", (Schema.text
        "Requested certificate lifetime as a Go duration string (e.g. \"2160h0m0s\")").orNull),
      ("isCA", {
        kind := "boolean", standard := some (.bool false)
        description := some "Request a CA certificate" }),
      ("issuerRef", IssuerReference.schema),
      ("request", Schema.text
        "PEM encoded x509 certificate signing request, base64 encoded on the wire"),
      ("usages", ((Schema.listOf Schema.bareText).describe
        "Requested key usages (e.g. \"server auth\", \"client auth\")").orNull)]).describe
    "CertificateRequest spec as written by cert-manager"

def CertificateRequestStatus.schema : Schema :=
  let certificate := Schema.text
    "Signed certificate followed by any intermediates, base64 encoded PEM"
  let failureTime := Schema.text "Time the request was marked Failed (RFC3339)"
  ((Schema.record []
    [("ca", (Schema.text "Root CA certificate, base64 encoded PEM").orNull),
      ("certificate", certificate.orNull), ("conditions", Condition.listSchema),
      ("failureTime", failureTime.orNull)]).describe "CertificateRequest status").orNull

/-- A kind of resource as a cluster knows it. -/
structure ResourceDefinition where
  group : String
  version : String
  kind : String
  plural : String
  singular : String
  shortNames : List String
  isNamespaced : Bool
  showsReady : Bool
  typeName : String
  title : String
  spec : Schema
  status : Schema

namespace ResourceDefinition

def issuer : ResourceDefinition where
  group := CertificateRequest.issuerGroup
  version := "v1beta1"
  kind := IssuerKind.issuer.name
  plural := "awspcaissuers"
  singular := "awspcaissuer"
  shortNames := []
  isNamespaced := true
  showsReady := true
  typeName := "AwsPcaIssuerSpec"
  title := "AwsPcaIssuer"
  spec := IssuerSpec.schema "AWSPCAIssuer spec"
  status := IssuerStatus.schema

def clusterIssuer : ResourceDefinition where
  group := CertificateRequest.issuerGroup
  version := "v1beta1"
  kind := IssuerKind.clusterIssuer.name
  plural := "awspcaclusterissuers"
  singular := "awspcaclusterissuer"
  shortNames := []
  isNamespaced := false
  showsReady := true
  typeName := "AwsPcaClusterIssuerSpec"
  title := "AwsPcaClusterIssuer"
  spec := IssuerSpec.schema "AWSPCAClusterIssuer spec, identical to the namespaced issuer"
  status := IssuerStatus.schema

def certificateRequest : ResourceDefinition where
  group := CertificateRequest.apiGroup
  version := "v1"
  kind := CertificateRequest.kindName
  plural := "certificaterequests"
  singular := "certificaterequest"
  shortNames := ["cr"]
  isNamespaced := true
  showsReady := false
  typeName := "CertificateRequestSpec"
  title := "CertificateRequest"
  spec := CertificateRequestSpec.schema
  status := CertificateRequestStatus.schema

def ofKind? (kind : String) : Option ResourceDefinition :=
  [issuer, clusterIssuer, certificateRequest].find? fun definition => definition.kind == kind

def schema (definition : ResourceDefinition) : Schema :=
  { Schema.record ["spec"] [("spec", definition.spec), ("status", definition.status)] with
    title := some definition.title
    description :=
      some s!"Auto-generated derived type for {definition.typeName} via \x60CustomResource\x60" }

/-- A column of a table that shows whether a resource is ready. -/
def readyColumn : Json :=
  .record
    [("jsonPath", .text ".status.conditions[?(@.type==\"Ready\")].status"),
      ("name", .text "Ready"), ("type", .text "string")]

def versionJson (definition : ResourceDefinition) : Json :=
  .record
    [("additionalPrinterColumns", .list (if definition.showsReady then [readyColumn] else [])),
      ("name", .text definition.version),
      ("schema", .record [("openAPIV3Schema", definition.schema.toJson)]),
      ("served", .bool true), ("storage", .bool true),
      ("subresources", .record [("status", .record [])])]

def toJson (definition : ResourceDefinition) : Json :=
  .record
    [("apiVersion", .text "apiextensions.k8s.io/v1"),
      ("kind", .text "CustomResourceDefinition"),
      ("metadata", .record [("name", .text (definition.plural ++ "." ++ definition.group))]),
      ("spec", .record
        [("group", .text definition.group),
          ("names", .record
            [("categories", .list []), ("kind", .text definition.kind),
              ("plural", .text definition.plural),
              ("shortNames", Json.ofList .text definition.shortNames),
              ("singular", .text definition.singular)]),
          ("scope", .text (if definition.isNamespaced then "Namespaced" else "Cluster")),
          ("versions", .list [definition.versionJson])])]

/-- The definitions of both kinds of issuers in one file. -/
def issuerManifest : String :=
  "# This file is auto-generated by crdgen\n# DO NOT EDIT THIS FILE MANUALLY\n" ++
    String.join ([issuer, clusterIssuer].map fun definition =>
      "---\n" ++ Yaml.document definition.toJson)

end ResourceDefinition

end Issuance
