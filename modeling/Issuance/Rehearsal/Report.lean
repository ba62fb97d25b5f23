import Issuance.Rehearsal.Dispatch
import Issuance.Report

namespace Issuance.Rehearsal

/-- A call on an authority as it is shown, where the end of a validity counts from now. -/
def callJson (now : Int) : PrivateCa.Call → Json
  | .issueCertificate order =>
    let shown : Json :=
      if order.validityEnd = PrivateCa.greatestSecond then .text "max"
      else .text s!"now+{order.validityEnd - now}"
    let body : Json :=
      match (PrivateCa.Call.issueCertificate order).body with
      | .record members =>
        .record (Entries.adjust "Validity"
          (fun _ => .record [("Type", .text "ABSOLUTE"), ("Value", shown)]) members)
      | other => other
    .record [("target", .text (PrivateCa.Call.issueCertificate order).target), ("body", body)]
  | call => .record [("target", .text call.target), ("body", call.body)]

/-- The call of an exchange, if there was one. -/
def callsJson (now : Int) (call : Option PrivateCa.Call) : Json :=
  Json.ofList (callJson now) call.toList

namespace Record

/-- A record names its effect first. -/
def toJson (now : Int) : Record → Json
  | read name => .list [.text "read", .text name.namespaceName, .text name.name]
  | issuer name => .list [.text "issuer", .text name.namespaceName, .text name.name]
  | clusterIssuer name => .list [.text "cluster_issuer", .text name]
  | build number key spec =>
    .list [.text "build", .natural number, .text key.text, spec.toJson]
  | sign number name =>
    .list [.text "sign", .natural number, .text name.namespaceName, .text name.name]
  | collect number name arn =>
    .list [.text "get", .natural number, .text name.namespaceName, .text name.name, .text arn]
  | callSign number call => .list [.text "pca_sign", .natural number, callsJson now call]
  | callCollect number call => .list [.text "pca_get", .natural number, callsJson now call]
  | annotate name arn =>
    .list [.text "annotate", .text name.namespaceName, .text name.name, .text arn]
  | status name written =>
    .list [.text "status", .text name.namespaceName, .text name.name, written.toJson]
  | event published =>
    .list [.text "event", .text (if published.isWarning then "Warning" else "Normal"),
      .text published.reason, Json.ofOption .text published.note, published.regarding.toJson]

end Record

def outcomeJson : Option Reconcile.Outcome → Json
  | none => .null
  | some outcome =>
    Json.ofResult (fun requeue => .record [("requeue", requeue.toJson)]) ReconcileFailure.toJson
      outcome

/-- What writes leave behind on a request. -/
def requestMembers (request : CertificateRequest) : List (String × Json) :=
  [("annotations", Json.ofOption (Json.ofMap .text) request.metadata.annotations),
    ("status", Json.ofOption CertificateRequestStatus.toJson request.status)]

def requestJson (entry : ResourceName × CertificateRequest) : Json :=
  .record ([("namespace", .text entry.1.namespaceName), ("name", .text entry.1.name)] ++
    requestMembers entry.2)

/-- The order of names, by namespace first. -/
def nameBefore (left right : ResourceName × CertificateRequest) : Bool :=
  left.1.namespaceName < right.1.namespaceName ||
    (left.1.namespaceName == right.1.namespaceName && left.1.name ≤ right.1.name)

namespace World

/-- The stored requests in the order of their names. -/
def requestsJson (world : World) : Json :=
  Json.ofList requestJson (world.cluster.requests.mergeSort nameBefore)

def recordsJson (world : World) : Json := Json.ofList (Record.toJson world.now) world.records

end World

end Issuance.Rehearsal
