import Issuance.Encoding.Json
import Issuance.Resource.Entries
import Issuance.Time.StampText

namespace Issuance

/-- A resource that owns another one. -/
structure OwnerReference where
  apiVersion : String
  blockOwnerDeletion : Option Bool
  controller : Option Bool
  kind : String
  name : String
  uid : String
  deriving DecidableEq, Repr, Inhabited

namespace OwnerReference

/-- A text that counts as empty when it is missing or null. -/
def textOrEmpty (name : String) (members : List (String × Json)) : Option String :=
  (Json.nullable name Json.asText members).map (·.getD "")

def toJson (owner : OwnerReference) : Json :=
  .record <|
    [("apiVersion", .text owner.apiVersion)] ++
    Json.optional "blockOwnerDeletion" .bool owner.blockOwnerDeletion ++
    Json.optional "controller" .bool owner.controller ++
    [("kind", .text owner.kind), ("name", .text owner.name), ("uid", .text owner.uid)]

def ofJson? (json : Json) : Option OwnerReference := do
  let members ← json.asRecord
  let apiVersion ← textOrEmpty "apiVersion" members
  let blockOwnerDeletion ← Json.nullable "blockOwnerDeletion" Json.asBool members
  let controller ← Json.nullable "controller" Json.asBool members
  let kind ← textOrEmpty "kind" members
  let name ← textOrEmpty "name" members
  let uid ← textOrEmpty "uid" members
  return { apiVersion, blockOwnerDeletion, controller, kind, name, uid }

end OwnerReference

/-- The fields that one manager wrote. -/
structure ManagedFields where
  apiVersion : Option String
  fieldsType : Option String
  fields : Option Json
  manager : Option String
  operation : Option String
  subresource : Option String
  time : Option Moment
  deriving Inhabited

namespace ManagedFields

def toJson (entry : ManagedFields) : Json :=
  .record <|
    Json.optional "apiVersion" .text entry.apiVersion ++
    Json.optional "fieldsType" .text entry.fieldsType ++
    Json.optional "fieldsV1" id entry.fields ++
    Json.optional "manager" .text entry.manager ++
    Json.optional "operation" .text entry.operation ++
    Json.optional "subresource" .text entry.subresource ++
    Json.optional "time" Stamp.toJson entry.time

def ofJson? (json : Json) : Option ManagedFields := do
  let members ← json.asRecord
  let apiVersion ← Json.nullable "apiVersion" Json.asText members
  let fieldsType ← Json.nullable "fieldsType" Json.asText members
  let fields ← Json.nullable "fieldsV1" some members
  let manager ← Json.nullable "manager" Json.asText members
  let operation ← Json.nullable "operation" Json.asText members
  let subresource ← Json.nullable "subresource" Json.asText members
  let time ← Json.nullable "time" Stamp.ofJson? members
  return { apiVersion, fieldsType, fields, manager, operation, subresource, time }

end ManagedFields

structure Metadata where
  annotations : Option (List (String × String)) := none
  creationTimestamp : Option Moment := none
  deletionGracePeriodSeconds : Option Int := none
  deletionTimestamp : Option Moment := none
  finalizers : Option (List String) := none
  generateName : Option String := none
  generation : Option Int := none
  labels : Option (List (String × String)) := none
  managedFields : Option (List ManagedFields) := none
  name : Option String := none
  namespaceName : Option String := none
  ownerReferences : Option (List OwnerReference) := none
  resourceVersion : Option String := none
  selfLink : Option String := none
  uid : Option String := none
  deriving Inhabited

namespace Metadata

/-- The name, the name it was generated from, or nothing. -/
def anyName (metadata : Metadata) : String :=
  (metadata.name <|> metadata.generateName).getD ""

def annotation? (metadata : Metadata) (key : String) : Option String :=
  metadata.annotations.bind fun annotations => annotations.lookup key

def annotate (metadata : Metadata) (key value : String) : Metadata :=
  { metadata with annotations := some (Entries.set key value (metadata.annotations.getD [])) }

def toJson (metadata : Metadata) : Json :=
  .record <|
    Json.optional "annotations" (Json.ofMap .text) metadata.annotations ++
    Json.optional "creationTimestamp" Stamp.toJson metadata.creationTimestamp ++
    Json.optional "deletionGracePeriodSeconds" .integer metadata.deletionGracePeriodSeconds ++
    Json.optional "deletionTimestamp" Stamp.toJson metadata.deletionTimestamp ++
    Json.optional "finalizers" (Json.ofList .text) metadata.finalizers ++
    Json.optional "generateName" .text metadata.generateName ++
    Json.optional "generation" .integer metadata.generation ++
    Json.optional "labels" (Json.ofMap .text) metadata.labels ++
    Json.optional "managedFields" (Json.ofList ManagedFields.toJson) metadata.managedFields ++
    Json.optional "name" .text metadata.name ++
    Json.optional "namespace" .text metadata.namespaceName ++
    Json.optional "ownerReferences" (Json.ofList OwnerReference.toJson)
      metadata.ownerReferences ++
    Json.optional "resourceVersion" .text metadata.resourceVersion ++
    Json.optional "selfLink" .text metadata.selfLink ++
    Json.optional "uid" .text metadata.uid

def ofJson? (json : Json) : Option Metadata := do
  let members ← json.asRecord
  let annotations ← Json.nullable "annotations" (Json.asMap Json.asText) members
  let creationTimestamp ← Json.nullable "creationTimestamp" Stamp.ofJson? members
  let deletionGracePeriodSeconds ←
    Json.nullable "deletionGracePeriodSeconds" Json.asInteger members
  let deletionTimestamp ← Json.nullable "deletionTimestamp" Stamp.ofJson? members
  let finalizers ← Json.nullable "finalizers" (Json.asList Json.asText) members
  let generateName ← Json.nullable "generateName" Json.asText members
  let generation ← Json.nullable "generation" Json.asInteger members
  let labels ← Json.nullable "labels" (Json.asMap Json.asText) members
  let managedFields ← Json.nullable "managedFields" (Json.asList ManagedFields.ofJson?) members
  let name ← Json.nullable "name" Json.asText members
  let namespaceName ← Json.nullable "namespace" Json.asText members
  let ownerReferences ←
    Json.nullable "ownerReferences" (Json.asList OwnerReference.ofJson?) members
  let resourceVersion ← Json.nullable "resourceVersion" Json.asText members
  let selfLink ← Json.nullable "selfLink" Json.asText members
  let uid ← Json.nullable "uid" Json.asText members
  return {
    annotations, creationTimestamp, deletionGracePeriodSeconds, deletionTimestamp, finalizers,
    generateName, generation, labels, managedFields, name, namespaceName, ownerReferences,
    resourceVersion, selfLink, uid }

end Metadata

end Issuance
