import Issuance.Encoding.Json
import Issuance.Text.Blank
import Issuance.Text.Digit
import Issuance.Time.Stamp

namespace Issuance.Stamp

/-- The text after the blanks at its front. -/
def skipBlanks (text : List Char) : List Char := text.dropWhile Text.isBlank

/-- A number of ASCII digits at the front, which has at most the given count of them. -/
def readDigits (most : Nat) (text : List Char) : Option (Nat × List Char) :=
  match (text.take most).takeWhile Text.isAsciiDigit with
  | [] => none
  | digits => some (Text.digitsValue digits, text.drop digits.length)

/-- A number of one or two digits after any blanks. -/
def readPair (text : List Char) : Option (Nat × List Char) := readDigits 2 (skipBlanks text)

/-- A year has at most four digits, unless it has a sign. -/
def readYear (text : List Char) : Option (Int × List Char) :=
  match skipBlanks text with
  | '+' :: rest => (readDigits rest.length rest).map fun (year, rest) => (year, rest)
  | '-' :: rest => (readDigits rest.length rest).map fun (year, rest) => (-year, rest)
  | text => (readDigits 4 text).map fun (year, rest) => (year, rest)

/-- One of the given characters at the front. -/
def readMark (marks : List Char) : List Char → Option (List Char)
  | character :: rest => if character ∈ marks then some rest else none
  | [] => none

/-- A fraction of a second does not count, but it has to hold a digit. -/
def skipFraction : List Char → Option (List Char)
  | '.' :: rest =>
    match rest.takeWhile Text.isAsciiDigit with
    | [] => none
    | _ => some (rest.dropWhile Text.isAsciiDigit)
  | text => some text

/-- Exactly two digits at the front. -/
def readTwoDigits (text : List Char) : Option (Nat × List Char) :=
  if (text.take 2).length = 2 ∧ (text.take 2).all Text.isAsciiDigit then readDigits 2 text
  else none

/-- An offset of hours and minutes in seconds, with any colons and blanks between the two. -/
def readOffsetSize (text : List Char) : Option (Int × List Char) := do
  let (hours, rest) ← readTwoDigits text
  let rest := rest.dropWhile fun character => character = ':' || Text.isBlank character
  let (minutes, rest) ← readTwoDigits rest
  if hours > 23 ∨ minutes > 59 then none else some (hours * 3600 + minutes * 60, rest)

/-- An offset from universal time in seconds. -/
def readOffset (text : List Char) : Option (Int × List Char) :=
  if (text.take 3).map Char.toUpper = ['U', 'T', 'C'] then some (0, text.drop 3)
  else
    match text with
    | 'Z' :: rest => some (0, rest)
    | 'z' :: rest => some (0, rest)
    | '+' :: rest => readOffsetSize rest
    | '-' :: rest => (readOffsetSize rest).map fun (size, rest) => (-size, rest)
    | '−' :: rest => (readOffsetSize rest).map fun (size, rest) => (-size, rest)
    | _ => none

/-- The moment that a stamp names. -/
def parse? (text : String) : Option Moment := do
  let (year, rest) ← readYear text.toList
  let rest ← readMark ['-'] (skipBlanks rest)
  let (month, rest) ← readPair rest
  let rest ← readMark ['-'] (skipBlanks rest)
  let (day, rest) ← readPair rest
  let rest ← readMark ['T', 't', ' '] rest
  let (hour, rest) ← readPair rest
  let rest ← readMark [':'] (skipBlanks rest)
  let (minute, rest) ← readPair rest
  let rest ← readMark [':'] (skipBlanks rest)
  let (second, rest) ← readPair rest
  let rest ← skipFraction rest
  let (offset, rest) ← readOffset (skipBlanks rest)
  let date : Date := ⟨year, month, day⟩
  let midnight : Moment := { second := dayOfDate date * 86400 }
  let moment : Moment :=
    { second := midnight.second + hour * 3600 + minute * 60 + min second 59 - offset
      isLeap := second = 60 }
  if ¬(skipBlanks rest).isEmpty ∨ dateOfDay (dayOfDate date) ≠ date then none
  else if hour > 23 ∨ minute > 59 ∨ second > 60 then none
  else if !midnight.isInCalendar || !moment.isInCalendar then none
  else some moment

def toJson (moment : Moment) : Json := .text (ofMoment moment)

def ofJson? (json : Json) : Option Moment := json.asText.bind parse?

end Issuance.Stamp
