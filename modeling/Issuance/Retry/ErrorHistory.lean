import Issuance.Config.Controller
import Issuance.Retry.Fibonacci

namespace Issuance

/-- An instant counts nanoseconds on a clock that never goes back. -/
abbrev Instant := Nat

/-- What is remembered about the errors of one resource. -/
structure ErrorHistory where
  backoff : FibonacciBackoff
  errors : UInt32
  lastError : Instant
  deriving DecidableEq, Repr

namespace ErrorHistory

/-- A new history has no errors, and its birth counts as the last one. -/
def start (first longest : UInt64) (now : Instant) : ErrorHistory :=
  { backoff := .start first longest, errors := 0, lastError := now }

def recordError (history : ErrorHistory) (now : Instant) : ErrorHistory :=
  { history with errors := saturatingSucc history.errors, lastError := now }

/-- The errors are forgotten, but not their time. -/
def reset (history : ErrorHistory) : ErrorHistory :=
  { history with errors := 0, backoff := history.backoff.reset }

/-- A history is stale when its last error is longer ago than the given span. -/
def isStale (history : ErrorHistory) (now : Instant) (idle : Span) : Bool :=
  idle.nanoseconds < now - history.lastError

def advance (history : ErrorHistory) : ErrorHistory :=
  { history with backoff := history.backoff.advance }

end ErrorHistory

/-- A resource is told apart by its namespace and name. -/
def resourceKey (namespaceName name : String) : String := namespaceName ++ "/" ++ name

/-- A delay before the next try, and the count of errors that led to it. -/
structure Retry where
  delay : Span
  errors : UInt32
  deriving DecidableEq, Repr

/-- A retry table holds at most one history for a resource. -/
structure RetryTable where
  histories : List (String × ErrorHistory) := []
  deriving DecidableEq, Repr, Inhabited

namespace RetryTable

def history? (table : RetryTable) (key : String) : Option ErrorHistory :=
  table.histories.lookup key

/-- A resource without errors for twice the longest backoff is not tried again. -/
def idleSpan (config : ControllerConfig) : Span := .ofSeconds (saturatingDouble config.backoffMax)

/-- Stale histories go, except that of the resource itself. -/
def prune (idle : Span) (now : Instant) (key : String) (table : RetryTable) : RetryTable :=
  ⟨table.histories.filter fun entry => entry.1 == key || !entry.2.isStale now idle⟩

/-- A history takes the place of the one of the same resource. -/
def store (key : String) (history : ErrorHistory) (table : RetryTable) : RetryTable :=
  ⟨(table.histories.filter fun entry => entry.1 != key) ++ [(key, history)]⟩

/-- An error of a resource sets its next try. -/
def recordError (config : ControllerConfig) (now : Instant) (key : String) (table : RetryTable) :
    Retry × RetryTable :=
  let kept := table.prune (idleSpan config) now key
  let history := (kept.history? key).getD (.start config.backoffMin config.backoffMax now)
  let failed := history.recordError now
  (⟨failed.backoff.due, failed.errors⟩, kept.store key failed.advance)

/-- A success of a resource drops its history. -/
def forget (key : String) (table : RetryTable) : RetryTable :=
  ⟨table.histories.filter fun entry => entry.1 != key⟩

end RetryTable

end Issuance
