import Issuance.Resource.Definition
import Issuance.Startup

namespace Issuance.CommandLine

/-- These variables are read from the environment of the process. -/
def variableNames : List String :=
  ["BACKOFF_MIN_SECS", "BACKOFF_MAX_SECS", "ISSUANCE_POLL_INTERVAL_SECS",
   "WATCH_RESTART_DELAY_SECS", "WATCH_RESTART_DELAY_AFTER_END_SECS",
   "MAX_CONCURRENT_RECONCILIATIONS", "POD_NAMESPACE", "LOG_LEVEL", "LOG_FORMAT",
   "CONTROLLER_NAME", "PROBE_PORT", "SERVER_STARTUP_TIMEOUT_SECS", "SERVER_POLL_INTERVAL_MS",
   "RUST_LOG"]

def readEnvironment : IO Environment := do
  let values ← variableNames.mapM fun name => do return (name, ← IO.getEnv name)
  return .ofList (values.filterMap fun entry => entry.2.map (entry.1, ·))

/-- A start without a cluster in reach shows its log and its fault. -/
def start : IO UInt32 := do
  let environment ← readEnvironment
  let startup := Startup.start environment {}
  for line in Startup.shownLines environment startup.lines do
    IO.println s!"{line.level.name} {line.message}"
  for complaint in startup.complaints do
    IO.eprintln complaint
  return startup.exitCode

end Issuance.CommandLine

/-- The word crds asks for the definitions. -/
def main (arguments : List String) : IO UInt32 := do
  if arguments = ["crds"] then
    IO.print Issuance.ResourceDefinition.issuerManifest
    return 0
  else Issuance.CommandLine.start
