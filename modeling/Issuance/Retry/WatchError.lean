import Issuance.Number.Saturating
import Issuance.Text.Blank
import Issuance.Time.Span

namespace Issuance

inductive WatchErrorKind where
  | unauthorized
  | resourceVersionExpired
  | tooManyRequests
  | notFound
  | other
  deriving DecidableEq, Repr

namespace WatchErrorKind

def name : WatchErrorKind → String
  | unauthorized => "Unauthorized"
  | resourceVersionExpired => "ResourceVersionExpired"
  | tooManyRequests => "TooManyRequests"
  | notFound => "NotFound"
  | other => "Other"

/-- These texts say that a resource does not exist. -/
def notFoundMarks : List String := ["ObjectNotFound", "404", "not found"]

/-- These texts say that the credentials were refused. -/
def unauthorizedMarks : List String := ["401", "Unauthorized"]

/-- These texts say that the watch fell too far behind. -/
def expiredMarks : List String := ["410", "too old resource version", "Expired", "Gone"]

/-- These texts say that the server wants a pause. -/
def tooManyMarks : List String := ["429", "storage is (re)initializing", "TooManyRequests"]

/-- One of the marks occurs in a text. -/
def holdsMark (marks : List String) (text : String) : Bool := marks.any (Text.mentions text)

/-- A text that says not found is never taken for a refusal. -/
def ofText (text : String) : WatchErrorKind :=
  let missing := holdsMark notFoundMarks text
  if holdsMark unauthorizedMarks text && !missing then unauthorized
  else if holdsMark expiredMarks text then resourceVersionExpired
  else if holdsMark tooManyMarks text then tooManyRequests
  else if missing then notFound
  else other

end WatchErrorKind

/-- A reaction to a watch error: how long it sleeps, and the pause that the next one meets. -/
structure WatchReaction where
  kind : WatchErrorKind
  keepsStream : Bool
  sleep : Span
  pause : UInt64
  deriving DecidableEq, Repr

/-- The pause counts milliseconds and doubles with each request to slow down. -/
def reactToWatchError (longest : UInt64) (restartDelay : Span) (pause : UInt64) (text : String) :
    WatchReaction :=
  let kind := WatchErrorKind.ofText text
  match kind with
  | .unauthorized => ⟨kind, false, restartDelay, pause⟩
  | .resourceVersionExpired => ⟨kind, false, .zero, pause⟩
  | .tooManyRequests =>
    ⟨kind, false, .ofMilliseconds pause, min (saturatingDouble pause) longest⟩
  | .notFound => ⟨kind, true, .zero, pause⟩
  | .other => ⟨kind, false, restartDelay, pause⟩

/-- The reactions to a sequence of watch errors. -/
def reactToWatchErrors (longest : UInt64) (restartDelay : Span) :
    UInt64 → List String → List WatchReaction
  | _, [] => []
  | pause, text :: texts =>
    let reaction := reactToWatchError longest restartDelay pause text
    reaction :: reactToWatchErrors longest restartDelay reaction.pause texts

end Issuance
