import Issuance.Config.Environment
import Issuance.Time.Span

namespace Issuance

/-- The time limit counts seconds, and the poll interval counts milliseconds. -/
structure ServerConfig where
  probePort : UInt16 := 8081
  startupTimeout : UInt64 := 10
  pollInterval : UInt64 := 50
  deriving DecidableEq, Repr

namespace ServerConfig

def standard : ServerConfig := {}

/-- Polls are at least one millisecond apart. -/
def ofEnvironment (environment : Environment) : ServerConfig :=
  { probePort := environment.word16 "PROBE_PORT" standard.probePort
    startupTimeout := environment.word64 "SERVER_STARTUP_TIMEOUT_SECS" standard.startupTimeout
    pollInterval :=
      max (environment.word64 "SERVER_POLL_INTERVAL_MS" standard.pollInterval) 1 }

/-- How long the server may take to listen. -/
def startupLimit (config : ServerConfig) : Span := .ofSeconds config.startupTimeout

def pollDelay (config : ServerConfig) : Span := .ofMilliseconds config.pollInterval

end ServerConfig

end Issuance
