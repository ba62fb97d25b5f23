import Issuance.Authority.Exchange
import Issuance.Cluster.Http
import Issuance.Reconcile.Effect

namespace Issuance

structure PublishedEvent where
  name : String
  event : Event
  count : Option Nat
  deriving DecidableEq, Repr

/-- Events of the same signature are taken for repetitions, whatever their notes say. -/
structure EventSignature where
  isWarning : Bool
  reason : String
  regarding : ObjectReference
  deriving DecidableEq, Repr

namespace Event

def signature (event : Event) : EventSignature :=
  ⟨event.isWarning, event.reason, event.regarding⟩

/-- Every event reports the same action. -/
def action : String := "Reconcile"

def weight (event : Event) : String := if event.isWarning then "Warning" else "Normal"

end Event

/-- A recorder remembers the events that it published. -/
structure EventRecorder where
  controllerName : String
  instanceName : Option String
  published : List (EventSignature × PublishedEvent) := []
  deriving Repr

namespace EventRecorder

/-- The group of events with its version. -/
def apiVersion : String := "events.k8s.io/v1"

/-- The event to publish, which repeats an earlier one or gets a name from the time. -/
def prepare (recorder : EventRecorder) (time : String) (event : Event) : PublishedEvent :=
  match recorder.published.lookup event.signature with
  | none => ⟨event.regarding.name.getD recorder.controllerName ++ "." ++ time, event, none⟩
  | some earlier => { earlier with count := some (earlier.count.getD 1 + 1) }

def body (recorder : EventRecorder) (published : PublishedEvent) : Json :=
  let event := published.event
  .record <|
    [("apiVersion", .text apiVersion), ("kind", .text "Event"),
      ("action", .text Event.action),
      ("metadata", .record (
        [("name", .text published.name)] ++
        Json.optional "namespace" .text event.regarding.namespaceName))] ++
    Json.optional "note" .text event.note ++
    [("reason", .text event.reason), ("regarding", event.regarding.toJson),
      ("reportingController", .text recorder.controllerName),
      ("reportingInstance", .text (recorder.instanceName.getD recorder.controllerName))] ++
    Json.optional "series" (fun (count : Nat) => .record [("count", .integer count)])
      published.count ++
    [("type", .text event.weight)]

/-- A first event is created, and a repetition changes the first one. -/
def call (recorder : EventRecorder) (published : PublishedEvent) : HttpCall :=
  let namespaceName := published.event.regarding.namespaceName.getD "default"
  let path := s!"/apis/events.k8s.io/v1/namespaces/{namespaceName}/events"
  match published.count with
  | none =>
    { method := "POST", path, contentType := some "application/json"
      body := some (recorder.body published) }
  | some _ =>
    .change (path ++ "/" ++ published.name) "application/merge-patch+json" []
      (recorder.body published)

/-- A reply to a publication holds the event. -/
def readEvent (json : Json) : Option Unit := do
  let members ← json.asRecord
  let _ ← Secret.fixed "apiVersion" apiVersion members
  let _ ← Secret.fixed "kind" "Event" members
  let _ ← Json.nullable "metadata" Metadata.ofJson? members
  let _ ← Json.nullable "regarding" ObjectReference.ofJson? members
  return ()

/-- Only a publication that succeeded is remembered. -/
def remember (recorder : EventRecorder) (published : PublishedEvent) : EventRecorder :=
  { recorder with
    published := Entries.set published.event.signature published recorder.published }

/-- An event is published unless its call cannot be sent. -/
def publish (recorder : EventRecorder) (time : String) (event : Event) :
    Exchange HttpCall HttpReply Unit EventRecorder :=
  let published := recorder.prepare time event
  match (recorder.call published).sent? with
  | none => .settled (.error ())
  | some call =>
    .ask call fun reply =>
      match reply.value? readEvent with
      | none => .error ()
      | some _ => .ok (recorder.remember published)

end EventRecorder

end Issuance
