import Issuance.Text.Blank
import Issuance.Text.Digit

namespace Issuance

/-- An environment gives values to the names of variables. -/
abbrev Environment := String → Option String

namespace Environment

def ofList (entries : List (String × String)) : Environment :=
  fun name => entries.lookup name

/-- A plus sign in front of a number does not count. -/
def dropPlus : List Char → List Char
  | '+' :: digits => digits
  | digits => digits

/-- An unsigned number is written in ASCII digits. -/
def readNumber (text : String) : Option Nat :=
  let digits := dropPlus text.toList
  if !digits.isEmpty && digits.all Text.isAsciiDigit then some (Text.digitsValue digits)
  else none

/-- A number below a limit. -/
def readBelow (limit : Nat) (text : String) : Option Nat :=
  (readNumber (Text.trim text)).filter fun value => value < limit

/-- A number of 64 bits, or the default. -/
def word64 (environment : Environment) (name : String) (default : UInt64) : UInt64 :=
  (((environment name).bind (readBelow UInt64.size)).map UInt64.ofNat).getD default

def word16 (environment : Environment) (name : String) (default : UInt16) : UInt16 :=
  (((environment name).bind (readBelow UInt16.size)).map UInt16.ofNat).getD default

/-- A text that is not blank, without blanks at its ends, or the default. -/
def text (environment : Environment) (name default : String) : String :=
  (((environment name).map Text.trim).filter fun value => !value.isEmpty).getD default

end Environment

end Issuance
