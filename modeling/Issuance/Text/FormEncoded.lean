import Issuance.Text.Utf8

namespace Issuance.Text

/-- These bytes are written as they are. -/
def isFormSafe (byte : UInt8) : Bool :=
  (48 ≤ byte && byte ≤ 57) || (65 ≤ byte && byte ≤ 90) || (97 ≤ byte && byte ≤ 122) ||
    byte == 42 || byte == 45 || byte == 46 || byte == 95

def hexDigit (value : Nat) : Char :=
  Char.ofNat (if value < 10 then 48 + value else 55 + value)

/-- One byte of a form-encoded text. -/
def formEncodeByte (byte : UInt8) : List Char :=
  if byte == 32 then ['+']
  else if isFormSafe byte then [Char.ofNat byte.toNat]
  else ['%', hexDigit (byte.toNat / 16), hexDigit (byte.toNat % 16)]

/-- A form-encoded text. -/
def formEncode (text : String) : String :=
  String.ofList ((utf8Bytes text).flatMap formEncodeByte)

def formPair (name value : String) : String :=
  formEncode name ++ "=" ++ formEncode value

end Issuance.Text
