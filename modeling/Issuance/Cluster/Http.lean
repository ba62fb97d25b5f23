import Issuance.Encoding.Json
import Issuance.Text.FormEncoded

namespace Issuance

/-- A call names a path and may carry a query and a body. -/
structure HttpCall where
  method : String
  path : String
  query : List (String × String) := []
  contentType : Option String := none
  body : Option Json := none

/-- A reply has a code and a body that may be JSON, or there is none. -/
inductive HttpReply where
  | response (code : Nat) (body : Option Json)
  | lost
  deriving Inhabited

namespace HttpCall

def read (path : String) : HttpCall := { method := "GET", path }

def change (path contentType : String) (query : List (String × String)) (body : Json) : HttpCall :=
  { method := "PATCH", path, query, contentType := some contentType, body := some body }

/-- The characters of a path. Others must not be sent. -/
def isPathCharacter (character : Char) : Bool :=
  128 ≤ character.toNat ||
    !(character.toNat ≤ 32 || "<>?\x60".toList.contains character)

/-- A number sign ends what is sent of a path and its query. -/
def cut (call : HttpCall) : HttpCall :=
  if call.path.toList.contains '#' then
    { call with path := String.ofList (call.path.toList.takeWhile (· ≠ '#')), query := [] }
  else call

/-- A call is sent when all characters of its path may be sent. -/
def sent? (call : HttpCall) : Option HttpCall :=
  if call.cut.path.toList.all isPathCharacter then some call.cut else none

def encodedQuery (call : HttpCall) : List String :=
  call.query.map fun entry => Text.formPair entry.1 entry.2

end HttpCall

namespace HttpReply

/-- Codes from 400 to 599 report failures. -/
def isFailureCode (code : Nat) : Bool := 400 ≤ code && code < 600

/-- The failure says that there is no such resource. -/
def isNotFound : HttpReply → Bool
  | response code (some (.record members)) =>
    isFailureCode code && (members.lookup "reason").bind Json.asText == some "NotFound"
  | _ => false

/-- The value in the body of a success. -/
def value? (read : Json → Option α) : HttpReply → Option α
  | response code body => if isFailureCode code then none else body.bind read
  | lost => none

end HttpReply

end Issuance
