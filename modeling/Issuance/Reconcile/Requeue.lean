import Issuance.Time.Span

namespace Issuance

/-- A request is looked at after its next change, at once, or after a delay. -/
inductive Requeue where
  | none
  | now
  | after (delay : Span)
  deriving DecidableEq, Repr, Inhabited

/-- A dispatcher waits for a change, or it waits for a delay. -/
inductive Action where
  | awaitChange
  | requeue (delay : Span)
  deriving DecidableEq, Repr, Inhabited

namespace Requeue

/-- No delay at all means at once. -/
def delayed (delay : Span) : Requeue := if delay.isZero then now else after delay

/-- The request is looked at without a change. -/
def isRequeue (requeue : Requeue) : Bool := requeue ≠ none

def action : Requeue → Action
  | none => .awaitChange
  | now => .requeue .zero
  | after delay => .requeue delay

end Requeue

end Issuance
