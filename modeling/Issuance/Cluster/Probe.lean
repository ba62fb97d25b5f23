namespace Issuance

/-- The state that probes report on. -/
structure ProbeState where
  listening : Bool := false
  ready : Bool := false
  deriving DecidableEq, Repr, Inhabited

namespace ProbeState

/-- A query or a fragment does not belong to the path. -/
def pathOf (target : String) : String :=
  String.ofList (target.toList.takeWhile fun character => character ≠ '?' ∧ character ≠ '#')

/-- The code that a probe gets, where only reading is allowed. -/
def code (state : ProbeState) (method target : String) : Nat :=
  let isRead := method = "GET" ∨ method = "HEAD"
  if pathOf target = "/healthz" then if isRead then 200 else 405
  else if pathOf target = "/readyz" then
    if isRead then if state.ready then 200 else 503 else 405
  else 404

end ProbeState

/-- A reason why probes do not get through. -/
inductive ProbeFault where
  | portTaken
  | unreachable
  deriving DecidableEq, Repr

def ProbeFault.message : ProbeFault → String
  | portTaken => "Address already in use (os error 98)"
  | unreachable => "Network is unreachable (os error 101)"

end Issuance
