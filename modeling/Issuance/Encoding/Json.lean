namespace Issuance

/-- A number is a whole mantissa divided by a power of ten. -/
inductive Json where
  | null
  | bool (value : Bool)
  | number (mantissa : Int) (places : Nat)
  | text (value : String)
  | list (items : List Json)
  | record (members : List (String × Json))
  deriving Inhabited

namespace Json

def integer (value : Int) : Json := number value 0

def asText : Json → Option String
  | text value => some value
  | _ => none

def asBool : Json → Option Bool
  | bool value => some value
  | _ => none

/-- A whole number of 64 bits with a sign. -/
def asInteger : Json → Option Int
  | number value 0 =>
    if Int64.minValue.toInt ≤ value ∧ value ≤ Int64.maxValue.toInt then some value else none
  | _ => none

def asList (read : Json → Option α) : Json → Option (List α)
  | list items => items.mapM read
  | _ => none

def asMap (read : Json → Option α) : Json → Option (List (String × α))
  | record members => members.mapM fun member => (read member.2).map (member.1, ·)
  | _ => none

def asRecord : Json → Option (List (String × Json))
  | record members => some members
  | _ => none

/-- A record may also be written as the list of its first fields in their declared order. -/
def asFields (names : List String) : Json → Option (List (String × Json))
  | record members => some members
  | list items => if items.length ≤ names.length then some (names.zip items) else none
  | _ => none

/-- A member that has to be there. -/
def required (name : String) (read : Json → Option α) (members : List (String × Json)) :
    Option α :=
  (members.lookup name).bind read

/-- A member that may be missing or null. -/
def nullable (name : String) (read : Json → Option α) (members : List (String × Json)) :
    Option (Option α) :=
  match members.lookup name with
  | none => some none
  | some null => some none
  | some value => (read value).map some

/-- A member that may be missing, and then has a default, but not null. -/
def defaulted (name : String) (read : Json → Option α) (default : α)
    (members : List (String × Json)) : Option α :=
  match members.lookup name with
  | none => some default
  | some value => read value

/-- A member that is left out when there is no value. -/
def optional (name : String) (write : α → Json) : Option α → List (String × Json)
  | none => []
  | some value => [(name, write value)]

def ofList (write : α → Json) (values : List α) : Json := list (values.map write)

def ofMap (write : α → Json) (values : List (String × α)) : Json :=
  record (values.map fun value => (value.1, write value.2))

def ofOption (write : α → Json) : Option α → Json
  | none => null
  | some value => write value

end Json

end Issuance
