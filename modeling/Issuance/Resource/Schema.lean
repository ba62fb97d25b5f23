import Issuance.Encoding.Json

namespace Issuance

/-- The parts of a schema, most of which may be missing. -/
structure Schema where
  kind : String
  standard : Option Json := none
  description : Option String := none
  names : List String := []
  items : Option Json := none
  nullable : Bool := false
  properties : List (String × Json) := []
  required : List String := []
  title : Option String := none
  deriving Inhabited

namespace Schema

/-- A list of names that is left out when it is empty. -/
def namesMember (name : String) (names : List String) : List (String × Json) :=
  if names.isEmpty then [] else [(name, Json.ofList .text names)]

/-- A schema as JSON, with its parts in the order of their names. -/
def toJson (schema : Schema) : Json :=
  .record <|
    Json.optional "default" id schema.standard ++
    Json.optional "description" .text schema.description ++
    namesMember "enum" schema.names ++
    Json.optional "items" id schema.items ++
    (if schema.nullable then [("nullable", .bool true)] else []) ++
    (if schema.properties.isEmpty then [] else [("properties", .record schema.properties)]) ++
    namesMember "required" schema.required ++
    Json.optional "title" .text schema.title ++
    [("type", .text schema.kind)]

/-- A text that has to be there. -/
def text (description : String) : Schema := { kind := "string", description := some description }

/-- A text without a description. -/
def bareText : Schema := { kind := "string" }

/-- A value that may be null. -/
def orNull (schema : Schema) : Schema := { schema with nullable := true }

def describe (description : String) (schema : Schema) : Schema :=
  { schema with description := some description }

/-- A record with the given fields, in the order of their names. -/
def record (required : List String) (fields : List (String × Schema)) : Schema :=
  { kind := "object", required, properties := fields.map fun field => (field.1, field.2.toJson) }

def listOf (items : Schema) : Schema := { kind := "array", items := some items.toJson }

end Schema

end Issuance
