import Issuance.Authority.Failure
import Issuance.Cluster.Http
import Issuance.Config.Controller
import Issuance.Config.Server
import Issuance.Reconcile.Requeue

namespace Issuance

def Json.natural (value : Nat) : Json := .integer value

def Json.failure (kind message : String) : Json :=
  .record [("error", .text kind), ("message", .text message)]

def Json.ofResult (write : α → Json) (writeFault : ε → Json) : Except ε α → Json
  | .ok value => write value
  | .error fault => writeFault fault

def Span.toJson (span : Span) : Json :=
  .record [("secs", .natural span.seconds), ("nanos", .natural span.subsecond)]

def ProvisionerFailure.name : ProvisionerFailure → String
  | inProgress => "RequestInProgress"
  | configuration _ => "Configuration"
  | api _ => "Api"

def ProvisionerFailure.toJson (failure : ProvisionerFailure) : Json :=
  .failure failure.name failure.message

def ReconcileFailure.toJson (failure : ReconcileFailure) : Json :=
  .failure failure.name failure.message

def AuthorityKey.toJson (key : AuthorityKey) : Json :=
  .record
    [("kind", .text key.kind.name), ("namespace", Json.ofOption .text key.namespaceName),
      ("name", .text key.name), ("text", .text key.text)]

def Requeue.toJson : Requeue → Json
  | none => .text "none"
  | now => .text "now"
  | after delay => .record [("after", delay.toJson)]

def Action.toJson : Action → Json
  | awaitChange => .text "await_change"
  | requeue delay => .record [("requeue", delay.toJson)]

/-- A call with its encoded query in order. -/
def HttpCall.toJson (call : HttpCall) : Json :=
  .record
    [("method", .text call.method), ("path", .text call.path),
      ("query", Json.ofList .text (call.encodedQuery.mergeSort fun left right => left ≤ right)),
      ("content_type", Json.ofOption .text call.contentType),
      ("body", Json.ofOption id call.body)]

def ControllerConfig.toJson (config : ControllerConfig) : Json :=
  .record
    [("backoff_min_secs", .natural config.backoffMin.toNat),
      ("backoff_max_secs", .natural config.backoffMax.toNat),
      ("issuance_poll_interval_secs", .natural config.issuancePoll.toNat),
      ("watch_restart_delay_secs", .natural config.watchRestart.toNat),
      ("watch_restart_delay_after_end_secs", .natural config.watchRestartAfterEnd.toNat),
      ("max_concurrent_reconciliations", .natural config.maxConcurrent.toNat),
      ("controller_namespace", .text config.controllerNamespace),
      ("log_level", .text config.logLevel), ("log_format", .text config.logFormat),
      ("controller_name", .text config.controllerName),
      ("issuance_poll_interval", config.issuancePollInterval.toJson),
      ("watch_restart_delay", config.watchRestartDelay.toJson),
      ("watch_restart_delay_after_end", config.watchRestartDelayAfterEnd.toJson),
      ("json_logs", .bool config.jsonLogs),
      ("is_default", .bool (config == standard))]

def ServerConfig.members (config : ServerConfig) : List (String × Json) :=
  [("probe_port", .natural config.probePort.toNat),
    ("startup_timeout_secs", .natural config.startupTimeout.toNat),
    ("poll_interval_ms", .natural config.pollInterval.toNat)]

end Issuance
