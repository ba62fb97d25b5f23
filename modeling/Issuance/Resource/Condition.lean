import Issuance.Encoding.Json

namespace Issuance

inductive ConditionStatus where
  | true
  | false
  | unknown
  deriving DecidableEq, Repr, Inhabited

namespace ConditionStatus

def name : ConditionStatus → String
  | .true => "True"
  | .false => "False"
  | .unknown => "Unknown"

def ofName? : String → Option ConditionStatus
  | "True" => some .true
  | "False" => some .false
  | "Unknown" => some .unknown
  | _ => none

def toJson (status : ConditionStatus) : Json := .text status.name

/-- A status is read from its name, or from a record that gives its name with no value. -/
def ofJson? : Json → Option ConditionStatus
  | .text name => ofName? name
  | .record [(name, .null)] => ofName? name
  | _ => none

end ConditionStatus

structure Condition where
  kind : String
  status : ConditionStatus
  lastTransitionTime : Option String
  reason : Option String
  message : Option String
  deriving DecidableEq, Repr, Inhabited

namespace Condition

/-- The kind of the condition that says whether a resource is usable. -/
def readyKind : String := "Ready"

/-- The issuance has not finished yet. -/
def pendingReason : String := "Pending"

/-- The certificate is stored on the request. -/
def issuedReason : String := "Issued"

/-- The issuance failed for good. -/
def failedReason : String := "Failed"

/-- A Ready condition without a transition time. -/
def ready (status : ConditionStatus) (reason message : String) : Condition :=
  { kind := readyKind, status, lastTransitionTime := none,
    reason := some reason, message := some message }

/-- The condition has the kind Ready. -/
def isReadyKind (condition : Condition) : Bool := condition.kind == readyKind

def findReady? (conditions : List Condition) : Option Condition :=
  conditions.find? isReadyKind

def fieldNames : List String :=
  ["type", "status", "lastTransitionTime", "reason", "message"]

def toJson (condition : Condition) : Json :=
  .record <|
    [("type", .text condition.kind), ("status", condition.status.toJson)] ++
    Json.optional "lastTransitionTime" .text condition.lastTransitionTime ++
    Json.optional "reason" .text condition.reason ++
    Json.optional "message" .text condition.message

def ofJson? (json : Json) : Option Condition := do
  let members ← json.asFields fieldNames
  let kind ← Json.required "type" Json.asText members
  let status ← Json.required "status" ConditionStatus.ofJson? members
  let lastTransitionTime ← Json.nullable "lastTransitionTime" Json.asText members
  let reason ← Json.nullable "reason" Json.asText members
  let message ← Json.nullable "message" Json.asText members
  return { kind, status, lastTransitionTime, reason, message }

end Condition

end Issuance
