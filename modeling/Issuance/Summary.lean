import Issuance.Startup
import Issuance.Text.Quoted

namespace Issuance.Summary

/-- Named fields between braces. -/
def braced (name : String) (fields : List (String × String)) (ending : List String) : String :=
  let parts := fields.map (fun field => field.1 ++ ": " ++ field.2) ++ ending
  name ++ " \x7b " ++ String.intercalate ", " parts ++ " \x7d"

/-- A summary that leaves fields out ends with two points. -/
def partly (name : String) (fields : List (String × String)) : String :=
  braced name fields [".."]

/-- The summary of a cache counts its provisioners. -/
def ofCache (cache : ProvisionerCache) : String :=
  partly "ProvisionerCache" [("entries", toString cache.size)]

def ofClusterAccess (fieldManager : String) : String :=
  partly "KubeStore" [("field_manager", Text.quote fieldManager)]

def ofClient (authorityArn : String) : String :=
  partly "PcaProvisioner" [("ca_arn", Text.quote authorityArn)]

def ofClientBuilder (controllerNamespace : String) : String :=
  partly "PcaProvisionerFactory" [("controller_namespace", Text.quote controllerNamespace)]

def ofConfig (config : ControllerConfig) : String :=
  braced "ControllerConfig"
    [("backoff_min_secs", toString config.backoffMin),
      ("backoff_max_secs", toString config.backoffMax),
      ("issuance_poll_interval_secs", toString config.issuancePoll),
      ("watch_restart_delay_secs", toString config.watchRestart),
      ("watch_restart_delay_after_end_secs", toString config.watchRestartAfterEnd),
      ("max_concurrent_reconciliations", toString config.maxConcurrent),
      ("controller_namespace", Text.quote config.controllerNamespace),
      ("log_level", Text.quote config.logLevel),
      ("log_format", Text.quote config.logFormat),
      ("controller_name", Text.quote config.controllerName)] []

def ofReconciler (config : ControllerConfig) (cache : ProvisionerCache) : String :=
  partly "Reconciler" [("provisioners", ofCache cache), ("config", ofConfig config)]

def ofStarted (started : Started) : String :=
  partly "InitializationResult" [("server_ready", toString started.probes.ready)]

end Issuance.Summary
