import Issuance.Config.Environment
import Issuance.Time.Span

namespace Issuance

/-- Delays are whole seconds. -/
structure ControllerConfig where
  backoffMin : UInt64 := 5
  backoffMax : UInt64 := 300
  issuancePoll : UInt64 := 2
  watchRestart : UInt64 := 5
  watchRestartAfterEnd : UInt64 := 1
  maxConcurrent : UInt16 := 10
  controllerNamespace : String := "aws-privateca-issuer"
  logLevel : String := "INFO"
  logFormat : String := "json"
  controllerName : String := "awspca-issuer"
  deriving DecidableEq, Repr

namespace ControllerConfig

/-- The settings of an empty environment. -/
def standard : ControllerConfig := {}

/-- Backoffs last at least one second, and the longest one is no shorter than the first. -/
def ofEnvironment (environment : Environment) : ControllerConfig :=
  let backoffMin := max (environment.word64 "BACKOFF_MIN_SECS" standard.backoffMin) 1
  { backoffMin
    backoffMax := max (environment.word64 "BACKOFF_MAX_SECS" standard.backoffMax) backoffMin
    issuancePoll := environment.word64 "ISSUANCE_POLL_INTERVAL_SECS" standard.issuancePoll
    watchRestart := environment.word64 "WATCH_RESTART_DELAY_SECS" standard.watchRestart
    watchRestartAfterEnd :=
      environment.word64 "WATCH_RESTART_DELAY_AFTER_END_SECS" standard.watchRestartAfterEnd
    maxConcurrent :=
      environment.word16 "MAX_CONCURRENT_RECONCILIATIONS" standard.maxConcurrent
    controllerNamespace := environment.text "POD_NAMESPACE" standard.controllerNamespace
    logLevel := environment.text "LOG_LEVEL" standard.logLevel
    logFormat := environment.text "LOG_FORMAT" standard.logFormat
    controllerName := environment.text "CONTROLLER_NAME" standard.controllerName }

/-- The delay between two looks at a certificate that is being issued. -/
def issuancePollInterval (config : ControllerConfig) : Span := .ofSeconds config.issuancePoll

def watchRestartDelay (config : ControllerConfig) : Span := .ofSeconds config.watchRestart

/-- The delay after the watch has ended. -/
def watchRestartDelayAfterEnd (config : ControllerConfig) : Span :=
  .ofSeconds config.watchRestartAfterEnd

/-- Logs are JSON unless the format is text, in any case of its letters. -/
def jsonLogs (config : ControllerConfig) : Bool := config.logFormat.toLower ≠ "text"

end ControllerConfig

end Issuance
