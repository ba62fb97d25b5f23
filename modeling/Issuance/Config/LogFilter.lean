import Issuance.Config.Controller

namespace Issuance

/-- Levels of log lines, the most serious one first. -/
inductive LogLevel where
  | error
  | warn
  | info
  | debug
  | trace
  deriving DecidableEq, Repr

namespace LogLevel

def name : LogLevel → String
  | error => "ERROR"
  | warn => "WARN"
  | info => "INFO"
  | debug => "DEBUG"
  | trace => "TRACE"

/-- A filter that shows a level shows all levels of a smaller rank too. -/
def rank : LogLevel → Nat
  | error => 1
  | warn => 2
  | info => 3
  | debug => 4
  | trace => 5

end LogLevel

/-- A directive shows lines up to a rank, of every target or of those that start with a text. -/
structure LogDirective where
  target : String
  rank : Nat
  deriving DecidableEq, Repr

/-- A log filter is a list of directives. -/
abbrev LogFilter : Type := List LogDirective

namespace LogFilter

/-- The greatest rank that is shown, written as a name in any case or as a number. -/
def rankOf? (text : String) : Option Nat :=
  match text.toLower with
  | "" => some 1
  | "off" => some 0
  | "error" => some 1
  | "warn" => some 2
  | "info" => some 3
  | "debug" => some 4
  | "trace" => some 5
  | number => (Environment.readNumber number).filter fun rank => rank ≤ 5

/-- A reason why a text is not a directive. -/
inductive DirectiveFault where
  | start
  | level
  deriving DecidableEq, Repr

namespace DirectiveFault

def message : DirectiveFault → String
  | start => "invalid filter directive"
  | level =>
    "error parsing level filter: expected one of \"off\", \"error\", \"warn\", \"info\", " ++
      "\"debug\", \"trace\", or a number 0-5"

end DirectiveFault

/-- A directive starts with a letter, a digit or one of three marks. -/
def startsDirective (character : Char) : Bool :=
  character.isAlphanum || character.toNat ≥ 128 || ['-', ':', '_'].contains character

/-- A directive is a level, a target, or a target with a level. -/
def readDirective (text : List Char) : Except DirectiveFault LogDirective :=
  if text.head?.all startsDirective then
    let target := String.ofList (text.takeWhile (· ≠ '='))
    match text.dropWhile (· ≠ '=') with
    | [] =>
      match rankOf? target with
      | some rank => .ok ⟨"", rank⟩
      | none => .ok ⟨target, LogLevel.trace.rank⟩
    | [_] => .ok ⟨target, LogLevel.trace.rank⟩
    | _ :: level =>
      match rankOf? (String.ofList level) with
      | some rank => .ok ⟨target, rank⟩
      | none => .error .level
  else .error .start

/-- The parts of a text between commas, without the empty ones. -/
def commaParts (text : String) : List (List Char) :=
  (text.toList.splitOn ',').filter fun part => !part.isEmpty

/-- A filter without directives shows errors. -/
def orErrors (filter : LogFilter) : LogFilter :=
  if filter.isEmpty then [⟨"", LogLevel.error.rank⟩] else filter

/-- The filter that a text of directives sets, when all of them are valid. -/
def ofText? (text : String) : Option LogFilter :=
  (((commaParts text).mapM readDirective).toOption).map orErrors

/-- The filter that the valid directives of a text set. -/
def ofValid (text : String) : LogFilter :=
  orErrors ((commaParts text).filterMap fun part => (readDirective part).toOption)

/-- A directive that is not valid is left out with a word about it. -/
def remark? (part : List Char) : Option String :=
  match readDirective part with
  | .ok _ => none
  | .error fault => some s!"ignoring \x60{String.ofList part}\x60: {fault.message}"

/-- The directives of a controller without a variable for filters. -/
def fallbackText (config : ControllerConfig) : String :=
  "aws_privateca_issuer=" ++ config.logLevel.toLower

/-- The filter that the variable for filters sets, when it is valid. -/
def chosen? (environment : Environment) : Option LogFilter := (environment "RUST_LOG").bind ofText?

/-- The variable for filters wins over the level of the controller. -/
def ofEnvironment (environment : Environment) (config : ControllerConfig) : LogFilter :=
  (chosen? environment).getD (ofValid (fallbackText config))

/-- What there is to say about the level of the controller, when it counts. -/
def remarks (environment : Environment) (config : ControllerConfig) : List String :=
  if (chosen? environment).isSome then []
  else (commaParts (fallbackText config)).filterMap remark?

/-- The later and longer of two directives counts. -/
def prefer (best : Option LogDirective) (directive : LogDirective) : Option LogDirective :=
  match best with
  | none => some directive
  | some other => some (if other.target.length ≤ directive.target.length then directive else other)

/-- The greatest rank of the lines of a target that is shown. -/
def rank (filter : LogFilter) (target : String) : Nat :=
  let applicable := filter.filter fun directive =>
    directive.target.toList.isPrefixOf target.toList
  match applicable.foldl prefer none with
  | none => 0
  | some directive => directive.rank

end LogFilter

end Issuance
