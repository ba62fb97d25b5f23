import Issuance.Cluster.Api
import Issuance.Cluster.Probe
import Issuance.Config.LogFilter
import Issuance.Config.Server

namespace Issuance

/-- A line of the log names the part of the controller that wrote it. -/
structure LogLine where
  target : String
  level : LogLevel
  message : String
  deriving DecidableEq, Repr

/-- What the controller meets when it starts. -/
structure Surroundings where
  startedBefore : Bool := false
  portTaken : Bool := false
  clusterNamespace : Option String := none
  deriving DecidableEq, Repr

/-- A reason why the controller does not start. -/
inductive StartupFault where
  | startedBefore
  | serverFailed
  | serverLate (limit : Nat)
  | noCluster
  deriving DecidableEq, Repr

namespace StartupFault

def message : StartupFault → String
  | startedBefore => "Failed to install rustls crypto provider"
  | serverFailed => "HTTP server failed to start"
  | serverLate limit => s!"HTTP server failed to start listening within {limit} seconds"
  | noCluster => "Failed to create Kubernetes client"

end StartupFault

/-- A controller that has started. -/
structure Started where
  config : ControllerConfig
  probes : ProbeState
  clusterNamespace : String
  requestsPath : String
  cache : ProvisionerCache := {}
  deriving Repr

/-- The log of a start, the remarks on its filter, and the outcome. -/
structure Startup where
  lines : List LogLine
  remarks : List String := []
  outcome : Except StartupFault Started

namespace Startup

def startTarget : String := "aws_privateca_issuer::runtime::initialization"

def serverTarget : String := "aws_privateca_issuer::controller::server"

def openingLines : List LogLine :=
  [⟨startTarget, .info, "Starting AWS Private CA Issuer"⟩, ⟨startTarget, .info, "Build info"⟩]

/-- The lines of a server that listens. -/
def serverLines (port : UInt16) : List LogLine :=
  [⟨serverTarget, .info, s!"HTTP server listening on 0.0.0.0:{port}"⟩,
    ⟨startTarget, .info, "HTTP server is accepting connections"⟩]

/-- The line of a server whose port is in use. -/
def portTakenLine : LogLine :=
  ⟨startTarget, .error, "HTTP server error: " ++ ProbeFault.portTaken.message⟩

def startedLine : LogLine :=
  ⟨startTarget, .info, "Controller initialized, starting watch loop..."⟩

/-- A start with the server, which has no time at all when its limit is zero. -/
def begin (config : ControllerConfig) (server : ServerConfig) (surroundings : Surroundings) :
    Startup :=
  if server.startupTimeout = 0 then
    { lines := openingLines, outcome := .error (.serverLate server.startupLimit.seconds) }
  else if surroundings.portTaken then
    { lines := openingLines ++ [portTakenLine], outcome := .error .serverFailed }
  else
    let lines := openingLines ++ serverLines server.probePort
    match surroundings.clusterNamespace with
    | none => { lines, outcome := .error .noCluster }
    | some clusterNamespace =>
      let started : Started :=
        { config, clusterNamespace
          probes := { listening := true, ready := true }
          requestsPath := ClusterApi.requestsPath }
      { lines := lines ++ [startedLine], outcome := .ok started }

/-- A process starts the controller only once. -/
def start (environment : Environment) (surroundings : Surroundings) : Startup :=
  if surroundings.startedBefore then { lines := [], outcome := .error .startedBefore }
  else
    let config := ControllerConfig.ofEnvironment environment
    { begin config (.ofEnvironment environment) surroundings with
      remarks := LogFilter.remarks environment config }

/-- What a start that failed says on the error stream. -/
def complaints (startup : Startup) : List String :=
  match startup.outcome with
  | .ok _ => startup.remarks
  | .error fault => startup.remarks ++ ["Error: " ++ fault.message]

/-- A start that failed ends with a code of its own. -/
def exitCode (startup : Startup) : UInt32 :=
  match startup.outcome with
  | .ok _ => 0
  | .error _ => 1

/-- The lines that the filter of an environment shows. -/
def shownLines (environment : Environment) (lines : List LogLine) : List LogLine :=
  let filter := LogFilter.ofEnvironment environment (.ofEnvironment environment)
  lines.filter fun line => line.level.rank ≤ filter.rank line.target

end Startup

end Issuance
