import Issuance.Encoding.Base64
import Issuance.Resource.Metadata

namespace Issuance

/-- A secret with its decoded entries. -/
structure Secret where
  metadata : Metadata
  data : Option (List (String × List UInt8))
  deriving Inhabited

namespace Secret

/-- An entry of a secret is written in base64. -/
def readEntry (json : Json) : Option (List UInt8) := do
  let text ← json.asText
  (Base64.decodeText text).toOption

/-- A text that must have the given value when it is there. -/
def fixed (name value : String) (members : List (String × Json)) : Option Unit :=
  match members.lookup name with
  | none => some ()
  | some (.text found) => if found = value then some () else none
  | some _ => none

/-- A secret from JSON, in which every field may be missing. -/
def ofJson? (json : Json) : Option Secret := do
  let members ← json.asRecord
  let _ ← fixed "apiVersion" "v1" members
  let _ ← fixed "kind" "Secret" members
  let metadata ← Json.nullable "metadata" Metadata.ofJson? members
  let data ← Json.nullable "data" (Json.asMap readEntry) members
  let _ ← Json.nullable "immutable" Json.asBool members
  let _ ← Json.nullable "stringData" (Json.asMap Json.asText) members
  let _ ← Json.nullable "type" Json.asText members
  return { metadata := metadata.getD {}, data }

/-- The bytes under a key. -/
def entry? (secret : Secret) (key : String) : Option (List UInt8) :=
  secret.data.bind fun data => data.lookup key

end Secret

/-- A reference to a resource from an event about it. -/
structure ObjectReference where
  apiVersion : Option String := none
  fieldPath : Option String := none
  kind : Option String := none
  name : Option String := none
  namespaceName : Option String := none
  resourceVersion : Option String := none
  uid : Option String := none
  deriving DecidableEq, Repr, Inhabited

namespace ObjectReference

def toJson (reference : ObjectReference) : Json :=
  .record <|
    Json.optional "apiVersion" .text reference.apiVersion ++
    Json.optional "fieldPath" .text reference.fieldPath ++
    Json.optional "kind" .text reference.kind ++
    Json.optional "name" .text reference.name ++
    Json.optional "namespace" .text reference.namespaceName ++
    Json.optional "resourceVersion" .text reference.resourceVersion ++
    Json.optional "uid" .text reference.uid

def ofJson? (json : Json) : Option ObjectReference := do
  let members ← json.asRecord
  let apiVersion ← Json.nullable "apiVersion" Json.asText members
  let fieldPath ← Json.nullable "fieldPath" Json.asText members
  let kind ← Json.nullable "kind" Json.asText members
  let name ← Json.nullable "name" Json.asText members
  let namespaceName ← Json.nullable "namespace" Json.asText members
  let resourceVersion ← Json.nullable "resourceVersion" Json.asText members
  let uid ← Json.nullable "uid" Json.asText members
  return { apiVersion, fieldPath, kind, name, namespaceName, resourceVersion, uid }

end ObjectReference

end Issuance
