import Issuance.Resource.Condition
import Issuance.Resource.Metadata

namespace Issuance

structure KeySelector where
  key : String
  deriving DecidableEq, Repr, Inhabited

namespace KeySelector

def toJson (selector : KeySelector) : Json := .record [("key", .text selector.key)]

def ofJson? (json : Json) : Option KeySelector := do
  let members ← json.asFields ["key"]
  let key ← Json.required "key" Json.asText members
  return { key }

end KeySelector

/-- A reference to the secret that holds credentials. -/
structure SecretReference where
  name : String
  namespaceName : Option String := none
  accessKeySelector : Option KeySelector := none
  secretKeySelector : Option KeySelector := none
  deriving DecidableEq, Repr, Inhabited

namespace SecretReference

def fieldNames : List String :=
  ["name", "namespace", "accessKeyIDSelector", "secretAccessKeySelector"]

def toJson (reference : SecretReference) : Json :=
  .record <|
    [("name", .text reference.name)] ++
    Json.optional "namespace" .text reference.namespaceName ++
    Json.optional "accessKeyIDSelector" KeySelector.toJson reference.accessKeySelector ++
    Json.optional "secretAccessKeySelector" KeySelector.toJson reference.secretKeySelector

def ofJson? (json : Json) : Option SecretReference := do
  let members ← json.asFields fieldNames
  let name ← Json.required "name" Json.asText members
  let namespaceName ← Json.nullable "namespace" Json.asText members
  let accessKeySelector ← Json.nullable "accessKeyIDSelector" KeySelector.ofJson? members
  let secretKeySelector ← Json.nullable "secretAccessKeySelector" KeySelector.ofJson? members
  return { name, namespaceName, accessKeySelector, secretKeySelector }

end SecretReference

/-- Which authority an issuer stands for, and how to reach it. -/
structure IssuerSpec where
  arn : String
  region : Option String := none
  secretRef : Option SecretReference := none
  deriving DecidableEq, Repr, Inhabited

namespace IssuerSpec

def fieldNames : List String := ["arn", "region", "secretRef"]

def toJson (spec : IssuerSpec) : Json :=
  .record <|
    [("arn", .text spec.arn)] ++
    Json.optional "region" .text spec.region ++
    Json.optional "secretRef" SecretReference.toJson spec.secretRef

/-- The fields of an issuer specification among the members of a record. -/
def ofMembers? (members : List (String × Json)) : Option IssuerSpec := do
  let arn ← Json.required "arn" Json.asText members
  let region ← Json.nullable "region" Json.asText members
  let secretRef ← Json.nullable "secretRef" SecretReference.ofJson? members
  return { arn, region, secretRef }

def ofJson? (json : Json) : Option IssuerSpec :=
  (json.asFields fieldNames).bind ofMembers?

end IssuerSpec

/-- A cluster issuer has the fields of an issuer in the same record. -/
structure ClusterIssuerSpec where
  issuer : IssuerSpec
  deriving DecidableEq, Repr, Inhabited

namespace ClusterIssuerSpec

def toJson (spec : ClusterIssuerSpec) : Json := spec.issuer.toJson

/-- A cluster issuer specification from a record. -/
def ofJson? (json : Json) : Option ClusterIssuerSpec :=
  (json.asRecord.bind IssuerSpec.ofMembers?).map ClusterIssuerSpec.mk

end ClusterIssuerSpec

structure IssuerStatus where
  conditions : List Condition := []
  deriving DecidableEq, Repr, Inhabited

namespace IssuerStatus

/-- The first Ready condition is true. -/
def isReady (status : IssuerStatus) : Bool :=
  match Condition.findReady? status.conditions with
  | none => false
  | some condition => condition.status == .true

def toJson (status : IssuerStatus) : Json :=
  .record [("conditions", Json.ofList Condition.toJson status.conditions)]

def ofJson? (json : Json) : Option IssuerStatus := do
  let members ← json.asFields ["conditions"]
  let conditions ← Json.defaulted "conditions" (Json.asList Condition.ofJson?) [] members
  return { conditions }

end IssuerStatus

inductive IssuerKind where
  | issuer
  | clusterIssuer
  deriving DecidableEq, Repr, Inhabited

namespace IssuerKind

def name : IssuerKind → String
  | issuer => "AWSPCAIssuer"
  | clusterIssuer => "AWSPCAClusterIssuer"

/-- The kind that a reference names, where no name means the namespaced kind. -/
def ofReference? (kind : Option String) : Option IssuerKind :=
  match kind.getD "" with
  | "" => some issuer
  | "AWSPCAIssuer" => some issuer
  | "Issuer" => some issuer
  | "AWSPCAClusterIssuer" => some clusterIssuer
  | "ClusterIssuer" => some clusterIssuer
  | _ => none

end IssuerKind

def issuerApiVersion : String := "awspca.cert-manager.io/v1beta1"

def issuerFieldNames : List String := ["metadata", "spec", "status"]

/-- An issuer of one namespace. -/
structure Issuer where
  metadata : Metadata
  spec : IssuerSpec
  status : Option IssuerStatus := none
  deriving Inhabited

namespace Issuer

def toJson (issuer : Issuer) : Json :=
  .record <|
    [("apiVersion", .text issuerApiVersion), ("kind", .text IssuerKind.issuer.name),
      ("metadata", issuer.metadata.toJson), ("spec", issuer.spec.toJson)] ++
    Json.optional "status" IssuerStatus.toJson issuer.status

def ofJson? (json : Json) : Option Issuer := do
  let members ← json.asFields issuerFieldNames
  let metadata ← Json.required "metadata" Metadata.ofJson? members
  let spec ← Json.required "spec" IssuerSpec.ofJson? members
  let status ← Json.nullable "status" IssuerStatus.ofJson? members
  return { metadata, spec, status }

end Issuer

/-- An issuer of the whole cluster. -/
structure ClusterIssuer where
  metadata : Metadata
  spec : ClusterIssuerSpec
  status : Option IssuerStatus := none
  deriving Inhabited

namespace ClusterIssuer

def toJson (issuer : ClusterIssuer) : Json :=
  .record <|
    [("apiVersion", .text issuerApiVersion), ("kind", .text IssuerKind.clusterIssuer.name),
      ("metadata", issuer.metadata.toJson), ("spec", issuer.spec.toJson)] ++
    Json.optional "status" IssuerStatus.toJson issuer.status

def ofJson? (json : Json) : Option ClusterIssuer := do
  let members ← json.asFields issuerFieldNames
  let metadata ← Json.required "metadata" Metadata.ofJson? members
  let spec ← Json.required "spec" ClusterIssuerSpec.ofJson? members
  let status ← Json.nullable "status" IssuerStatus.ofJson? members
  return { metadata, spec, status }

end ClusterIssuer

end Issuance
