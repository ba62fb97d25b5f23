import Issuance.Number.Binary64
import Issuance.Text.Digit
import Issuance.Time.Span

namespace Issuance.DurationText

/-- A unit of a duration text. -/
inductive Scale where
  | hours
  | minutes
  | seconds
  | milliseconds
  deriving DecidableEq, Repr

/-- A part is a number with an optional fraction and a unit. -/
structure Part where
  whole : List Char
  fraction : Option (List Char)
  scale : Scale
  deriving DecidableEq, Repr

namespace Scale

def letters : Scale → List Char
  | hours => ['h']
  | minutes => ['m']
  | seconds => ['s']
  | milliseconds => ['m', 's']

/-- A number of this unit in seconds. -/
def toSeconds : Scale → Binary64 → Binary64
  | hours, number => number.scale 3600
  | minutes, number => number.scale 60
  | seconds, number => number
  | milliseconds, number => number.divide 1000

end Scale

namespace Part

def letters (part : Part) : List Char :=
  part.whole ++
    (match part.fraction with
      | none => []
      | some digits => '.' :: digits) ++
    part.scale.letters

/-- A number counts only when all its digits are ASCII. -/
def number? (part : Part) : Option Binary64 :=
  let decimals := part.fraction.getD []
  let digits := part.whole ++ decimals
  if digits.all Text.isAsciiDigit then
    some (Binary64.ofDecimal (Text.digitsValue digits) decimals.length)
  else none

def seconds? (part : Part) : Option Binary64 :=
  part.number?.map part.scale.toSeconds

end Part

/-- The unit at the front, where milliseconds win over minutes. -/
def readScale : List Char → Option (Scale × List Char)
  | 'h' :: rest => some (.hours, rest)
  | 'm' :: 's' :: rest => some (.milliseconds, rest)
  | 'm' :: rest => some (.minutes, rest)
  | 's' :: rest => some (.seconds, rest)
  | _ => none

/-- A point starts a fraction only when a digit follows it. -/
def readFraction : List Char → Option (List Char) × List Char
  | '.' :: rest =>
    match rest.takeWhile Text.isDecimalDigit with
    | [] => (none, '.' :: rest)
    | digits => (some digits, rest.dropWhile Text.isDecimalDigit)
  | text => (none, text)

/-- The part at the front, which takes as many digits as it can. -/
def readPart (text : List Char) : Option (Part × List Char) :=
  match text.takeWhile Text.isDecimalDigit with
  | [] => none
  | whole =>
    let fraction := readFraction (text.dropWhile Text.isDecimalDigit)
    match readScale fraction.2 with
    | none => none
    | some (scale, rest) => some (⟨whole, fraction.1, scale⟩, rest)

/-- A unit takes at least one character. -/
theorem readScale_length {text rest : List Char} {scale : Scale}
    (found : readScale text = some (scale, rest)) : rest.length < text.length := by
  unfold readScale at found
  split at found <;> cases found
  case h_2 => exact Nat.lt_add_of_pos_right Nat.two_pos
  all_goals exact Nat.lt_succ_self _

/-- A fraction never adds characters. -/
theorem readFraction_length (text : List Char) : (readFraction text).2.length ≤ text.length := by
  fun_cases readFraction text with
  | case1 => exact Nat.le_refl _
  | case2 rest => exact Nat.le_succ_of_le (List.dropWhile_sublist _).length_le
  | case3 => exact Nat.le_refl _

/-- A part takes at least one character. -/
theorem readPart_length {text rest : List Char} {part : Part}
    (found : readPart text = some (part, rest)) : rest.length < text.length := by
  unfold readPart at found
  split at found
  · simp at found
  · dsimp only at found
    split at found
    · simp at found
    · rename_i scaleFound
      simp only [Option.some.injEq, Prod.mk.injEq] at found
      have scaled := readScale_length scaleFound
      have fractioned := readFraction_length (text.dropWhile Text.isDecimalDigit)
      have dropped := (List.dropWhile_sublist Text.isDecimalDigit (l := text)).length_le
      rw [← found.2]
      omega

/-- A well-formed text is nothing but parts, and at least one of them. -/
def isWellFormed (text : List Char) : Bool :=
  match _found : readPart text with
  | none => false
  | some (_, []) => true
  | some (_, rest) => isWellFormed rest
  termination_by text.length
  decreasing_by exact readPart_length (by assumption)

/-- The parts of a text from left to right, where characters that start no part are skipped. -/
def scanParts (text : List Char) : List Part :=
  match text with
  | [] => []
  | character :: text =>
    match _found : readPart (character :: text) with
    | some (part, rest) => part :: scanParts rest
    | none => scanParts text
  termination_by text.length
  decreasing_by
    · exact readPart_length (by assumption)
    · simp

/-- A reason why a text is not a duration. -/
inductive Fault where
  | empty
  | format (text : String)
  | number (text : String)
  | notPositive (text : String)
  | outOfRange (text : String)
  deriving DecidableEq, Repr

namespace Fault

def message : Fault → String
  | empty => "Duration string cannot be empty"
  | format text =>
    s!"Invalid duration format '{text}'. Expected Go duration (e.g., '2160h0m0s', '90m')"
  | number text => s!"Invalid duration number in '{text}': invalid float literal"
  | notPositive text => s!"Duration must be greater than 0, got '{text}'"
  | outOfRange text =>
    s!"Duration '{text}' is out of range: " ++
      "cannot convert float seconds to Duration: value is either too big or NaN"

end Fault

/-- The sum of parts in order, starting from a total. -/
def sumFrom (total : Binary64) : List Part → Option Binary64
  | [] => some total
  | part :: parts =>
    match part.seconds? with
    | none => none
    | some seconds => sumFrom (total.add seconds) parts

/-- A total of seconds as a span. -/
def spanOf (text : String) (total : Binary64) : Except Fault Span :=
  if total = Binary64.zero then .error (.notPositive text)
  else
    match total.billionths.bind Span.ofNanoseconds? with
    | none => .error (.outOfRange text)
    | some span => .ok span

/-- The span that a duration text stands for. -/
def parse (text : String) : Except Fault Span :=
  let trimmed := Text.trim text
  if trimmed.isEmpty then .error .empty
  else if !isWellFormed trimmed.toList then .error (.format trimmed)
  else
    match sumFrom .zero (scanParts trimmed.toList) with
    | none => .error (.number trimmed)
    | some total => spanOf trimmed total

end Issuance.DurationText
