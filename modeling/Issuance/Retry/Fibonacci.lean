import Issuance.Number.Saturating
import Issuance.Time.Span

namespace Issuance

/-- A backoff counts seconds and remembers the one before it. -/
structure FibonacciBackoff where
  first : UInt64
  previous : UInt64
  current : UInt64
  longest : UInt64
  deriving DecidableEq, Repr

namespace FibonacciBackoff

/-- The first backoff lasts at least one second, and the longest one is no shorter. -/
def start (first longest : UInt64) : FibonacciBackoff :=
  { first := max first 1, previous := 0, current := max first 1,
    longest := max longest (max first 1) }

def due (backoff : FibonacciBackoff) : Span := .ofSeconds backoff.current

/-- The backoff after the one that is due. -/
def advance (backoff : FibonacciBackoff) : FibonacciBackoff :=
  { backoff with
    previous := backoff.current
    current := min (saturatingAdd backoff.previous backoff.current) backoff.longest }

def reset (backoff : FibonacciBackoff) : FibonacciBackoff :=
  { backoff with previous := 0, current := backoff.first }

end FibonacciBackoff

end Issuance
