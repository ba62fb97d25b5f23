import Issuance.Text.Printable

namespace Issuance.Text

/-- A numeric escape holds the code point in lower-case hexadecimal digits. -/
def numericEscape (character : Char) : List Char :=
  "\\u\x7b".toList ++ Nat.toDigits 16 character.toNat ++ "\x7d".toList

/-- One character as it stands between the quotes. -/
def quoteCharacter (character : Char) : List Char :=
  match character with
  | '\x00' => ['\\', '0']
  | '\t' => ['\\', 't']
  | '\n' => ['\\', 'n']
  | '\r' => ['\\', 'r']
  | '"' => ['\\', '"']
  | '\\' => ['\\', '\\']
  | other => if isPrintable other then [other] else numericEscape other

/-- A text between double quotes. -/
def quote (text : String) : String :=
  String.ofList (['"'] ++ text.toList.flatMap quoteCharacter ++ ['"'])

end Issuance.Text
