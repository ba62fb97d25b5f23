import Issuance.Config.Controller
import Issuance.Config.Server
import Issuance.Proofs.Config.Environment
import Issuance.Retry.Fibonacci

namespace Issuance

open Environment (AgreeOn Form IsTidy)

theorem bound_le_max (word bound : UInt64) : bound ≤ max word bound := by
  rw [UInt64.le_iff_toNat_le, UInt64.toNat_max]
  exact Nat.le_max_right _ _

theorem max_bound_eq {word bound : UInt64} (ordered : bound ≤ word) : max word bound = word := by
  rw [← UInt64.toNat_inj, UInt64.toNat_max]
  exact Nat.max_eq_left (UInt64.le_iff_toNat_le.mp ordered)

namespace ControllerConfig

def texts (config : ControllerConfig) : List String :=
  [config.controllerNamespace, config.logLevel, config.logFormat, config.controllerName]

/-- Settings are in order when backoffs last, the longest one is no shorter than the first, and no
text is empty or has blanks at its ends. -/
structure IsInOrder (config : ControllerConfig) : Prop where
  lasting : 1 ≤ config.backoffMin
  ascending : config.backoffMin ≤ config.backoffMax
  tidy : ∀ text ∈ config.texts, IsTidy text

def inputs : List (String × Form) :=
  [("BACKOFF_MIN_SECS", .number UInt64.size), ("BACKOFF_MAX_SECS", .number UInt64.size),
   ("ISSUANCE_POLL_INTERVAL_SECS", .number UInt64.size),
   ("WATCH_RESTART_DELAY_SECS", .number UInt64.size),
   ("WATCH_RESTART_DELAY_AFTER_END_SECS", .number UInt64.size),
   ("MAX_CONCURRENT_RECONCILIATIONS", .number UInt16.size), ("POD_NAMESPACE", .text),
   ("LOG_LEVEL", .text), ("LOG_FORMAT", .text), ("CONTROLLER_NAME", .text)]

/-- The values of the variables that write the settings out. -/
def environment (config : ControllerConfig) : Environment :=
  .ofList
    [("BACKOFF_MIN_SECS", config.backoffMin.toNat.repr),
     ("BACKOFF_MAX_SECS", config.backoffMax.toNat.repr),
     ("ISSUANCE_POLL_INTERVAL_SECS", config.issuancePoll.toNat.repr),
     ("WATCH_RESTART_DELAY_SECS", config.watchRestart.toNat.repr),
     ("WATCH_RESTART_DELAY_AFTER_END_SECS", config.watchRestartAfterEnd.toNat.repr),
     ("MAX_CONCURRENT_RECONCILIATIONS", config.maxConcurrent.toNat.repr),
     ("POD_NAMESPACE", config.controllerNamespace), ("LOG_LEVEL", config.logLevel),
     ("LOG_FORMAT", config.logFormat), ("CONTROLLER_NAME", config.controllerName)]

theorem forall_texts {config : ControllerConfig} {holds : String → Prop} :
    (∀ text ∈ config.texts, holds text) ↔ holds config.controllerNamespace ∧
      holds config.logLevel ∧ holds config.logFormat ∧ holds config.controllerName := by
  simp [texts]

/-- The settings of every environment are in order. -/
theorem isInOrder_ofEnvironment (environment : Environment) :
    (ofEnvironment environment).IsInOrder := by
  have standardTidy : ∀ text ∈ standard.texts, IsTidy text := by decide
  obtain ⟨ofNamespace, level, format, ofName⟩ := forall_texts.mp standardTidy
  exact ⟨bound_le_max _ _, bound_le_max _ _, forall_texts.mpr
    ⟨environment.isTidy_text _ ofNamespace, environment.isTidy_text _ level,
      environment.isTidy_text _ format, environment.isTidy_text _ ofName⟩⟩

/-- Settings in order are those of the environment that writes them out. -/
theorem ofEnvironment_environment {config : ControllerConfig} (order : config.IsInOrder) :
    ofEnvironment config.environment = config := by
  obtain ⟨ofNamespace, level, format, ofName⟩ := forall_texts.mp order.tidy
  let written := config.environment
  rw [ofEnvironment, written.word64_repr "BACKOFF_MIN_SECS" rfl,
    written.word64_repr "BACKOFF_MAX_SECS" rfl,
    written.word64_repr "ISSUANCE_POLL_INTERVAL_SECS" rfl,
    written.word64_repr "WATCH_RESTART_DELAY_SECS" rfl,
    written.word64_repr "WATCH_RESTART_DELAY_AFTER_END_SECS" rfl,
    written.word16_repr "MAX_CONCURRENT_RECONCILIATIONS" rfl,
    written.text_tidy "POD_NAMESPACE" ofNamespace rfl, written.text_tidy "LOG_LEVEL" level rfl,
    written.text_tidy "LOG_FORMAT" format rfl, written.text_tidy "CONTROLLER_NAME" ofName rfl,
    max_bound_eq order.lasting, max_bound_eq order.ascending]

/-- Environments that agree on the variables of the settings have the same settings. -/
theorem ofEnvironment_eq_of_agreeOn {left right : Environment} (agree : AgreeOn inputs left right) :
    ofEnvironment left = ofEnvironment right := by
  have word64 (name : String) (listed : (name, Form.number UInt64.size) ∈ inputs) :=
    Environment.word64_eq_of_alike (agree _ listed)
  have word16 (name : String) (listed : (name, Form.number UInt16.size) ∈ inputs) :=
    Environment.word16_eq_of_alike (agree _ listed)
  have text (name : String) (listed : (name, Form.text) ∈ inputs) :=
    Environment.text_eq_of_alike (agree _ listed)
  rw [ofEnvironment, word64 "BACKOFF_MIN_SECS" (by decide), word64 "BACKOFF_MAX_SECS" (by decide),
    word64 "ISSUANCE_POLL_INTERVAL_SECS" (by decide),
    word64 "WATCH_RESTART_DELAY_SECS" (by decide),
    word64 "WATCH_RESTART_DELAY_AFTER_END_SECS" (by decide),
    word16 "MAX_CONCURRENT_RECONCILIATIONS" (by decide), text "POD_NAMESPACE" (by decide),
    text "LOG_LEVEL" (by decide), text "LOG_FORMAT" (by decide),
    text "CONTROLLER_NAME" (by decide), ofEnvironment]

end ControllerConfig

namespace ServerConfig

def inputs : List (String × Form) :=
  [("PROBE_PORT", .number UInt16.size), ("SERVER_STARTUP_TIMEOUT_SECS", .number UInt64.size),
   ("SERVER_POLL_INTERVAL_MS", .number UInt64.size)]

def environment (config : ServerConfig) : Environment :=
  .ofList
    [("PROBE_PORT", config.probePort.toNat.repr),
     ("SERVER_STARTUP_TIMEOUT_SECS", config.startupTimeout.toNat.repr),
     ("SERVER_POLL_INTERVAL_MS", config.pollInterval.toNat.repr)]

/-- Settings with some time between polls are those of the environment that writes them out. -/
theorem ofEnvironment_environment {config : ServerConfig} (lasting : 1 ≤ config.pollInterval) :
    ofEnvironment config.environment = config := by
  let written := config.environment
  rw [ofEnvironment, written.word16_repr "PROBE_PORT" rfl,
    written.word64_repr "SERVER_STARTUP_TIMEOUT_SECS" rfl,
    written.word64_repr "SERVER_POLL_INTERVAL_MS" rfl, max_bound_eq lasting]

/-- Environments that agree on the variables of the settings have the same settings. -/
theorem ofEnvironment_eq_of_agreeOn {left right : Environment} (agree : AgreeOn inputs left right) :
    ofEnvironment left = ofEnvironment right := by
  rw [ofEnvironment,
    Environment.word16_eq_of_alike (agree ("PROBE_PORT", _) (by decide)),
    Environment.word64_eq_of_alike (agree ("SERVER_STARTUP_TIMEOUT_SECS", _) (by decide)),
    Environment.word64_eq_of_alike (agree ("SERVER_POLL_INTERVAL_MS", _) (by decide)),
    ofEnvironment]

end ServerConfig

/-- A backoff takes ascending bounds over as they are. -/
theorem FibonacciBackoff.start_of_ascending {first longest : UInt64} (lasting : 1 ≤ first)
    (ascending : first ≤ longest) : start first longest = ⟨first, 0, first, longest⟩ := by
  rw [start, max_bound_eq lasting, max_bound_eq ascending]

/-- Every environment gives settings in order, whose bounds a backoff takes over as they are, and
all settings in order can be given. Environments give the same settings when they differ in blanks
around values and in values that do not count. -/
theorem settings_come_in_order :
    (∀ environment,
      let config := ControllerConfig.ofEnvironment environment
      let backoff := FibonacciBackoff.start config.backoffMin config.backoffMax
      config.IsInOrder ∧ backoff.first = config.backoffMin ∧
      backoff.longest = config.backoffMax ∧
      1 ≤ (ServerConfig.ofEnvironment environment).pollInterval) ∧
    (∀ left right,
      (AgreeOn ControllerConfig.inputs left right →
        ControllerConfig.ofEnvironment left = ControllerConfig.ofEnvironment right) ∧
      (AgreeOn ServerConfig.inputs left right →
        ServerConfig.ofEnvironment left = ServerConfig.ofEnvironment right)) ∧
    (∀ config : ControllerConfig, config.IsInOrder →
      ControllerConfig.ofEnvironment config.environment = config) ∧
    (∀ config : ServerConfig, 1 ≤ config.pollInterval →
      ServerConfig.ofEnvironment config.environment = config) := by
  refine ⟨fun environment => ?_, fun left right => ?_, fun config order => ?_,
    fun config lasting => ?_⟩
  · have order := ControllerConfig.isInOrder_ofEnvironment environment
    have started := FibonacciBackoff.start_of_ascending order.lasting order.ascending
    dsimp only
    rw [started]
    exact ⟨order, rfl, rfl, bound_le_max _ _⟩
  · exact ⟨ControllerConfig.ofEnvironment_eq_of_agreeOn, ServerConfig.ofEnvironment_eq_of_agreeOn⟩
  · exact ControllerConfig.ofEnvironment_environment order
  · exact ServerConfig.ofEnvironment_environment lasting

namespace Sample

/-- Numbers that do not fit, a blank text, and blanks around other values. -/
def untidyEnvironment : Environment :=
  .ofList
    [("BACKOFF_MIN_SECS", " 400\n"), ("BACKOFF_MAX_SECS", "18446744073709551616"),
     ("MAX_CONCURRENT_RECONCILIATIONS", "65536"), ("POD_NAMESPACE", "\t "),
     ("LOG_LEVEL", "debug "), ("PROBE_PORT", "-1"), ("SERVER_POLL_INTERVAL_MS", "0")]

/-- The values of it that count, without blanks around them. -/
def tidyEnvironment : Environment :=
  .ofList
    [("BACKOFF_MIN_SECS", "400"), ("LOG_LEVEL", "debug"), ("SERVER_POLL_INTERVAL_MS", "0")]

/-- The shortest and the longest backoff, and no reconciliation beside another. -/
def extremeConfig : ControllerConfig :=
  { backoffMin := 1, backoffMax := 18446744073709551615, maxConcurrent := 0, logFormat := "text" }

end Sample

/-- The longest backoff is not given in a number that fits, and what it falls back to is no shorter
than the first one that is given. -/
theorem sample_untidy_settings :
    AgreeOn ControllerConfig.inputs Sample.untidyEnvironment Sample.tidyEnvironment ∧
    ControllerConfig.ofEnvironment Sample.untidyEnvironment =
      ControllerConfig.ofEnvironment Sample.tidyEnvironment ∧
    (ControllerConfig.ofEnvironment Sample.untidyEnvironment).backoffMax = 400 ∧
    AgreeOn ServerConfig.inputs Sample.untidyEnvironment Sample.tidyEnvironment ∧
    ServerConfig.ofEnvironment Sample.untidyEnvironment =
      ServerConfig.ofEnvironment Sample.tidyEnvironment ∧
    Sample.extremeConfig.IsInOrder ∧
    ControllerConfig.ofEnvironment Sample.extremeConfig.environment = Sample.extremeConfig ∧
    1 ≤ ServerConfig.standard.pollInterval ∧
    ServerConfig.ofEnvironment ServerConfig.standard.environment = .standard := by
  obtain ⟨_, agreeing, written, serverWritten⟩ := settings_come_in_order
  obtain ⟨controller, server⟩ := agreeing Sample.untidyEnvironment Sample.tidyEnvironment
  have agree : AgreeOn ControllerConfig.inputs Sample.untidyEnvironment Sample.tidyEnvironment := by
    decide
  have serverAgree :
      AgreeOn ServerConfig.inputs Sample.untidyEnvironment Sample.tidyEnvironment := by
    decide
  have order : Sample.extremeConfig.IsInOrder := ⟨by decide, by decide, by decide⟩
  have lasting : 1 ≤ ServerConfig.standard.pollInterval := by decide
  exact ⟨agree, controller agree, by decide, serverAgree, server serverAgree, order,
    written _ order, lasting, serverWritten _ lasting⟩

end Issuance
