import Issuance.Text.Utf8

namespace Issuance.Base64

/-- The byte that pads the last quad. -/
def pad : UInt8 := 61

def symbol (value : Nat) : UInt8 :=
  if value < 26 then UInt8.ofNat (65 + value)
  else if value < 52 then UInt8.ofNat (71 + value)
  else if value < 62 then UInt8.ofNat (value - 4)
  else if value = 62 then 43 else 47

def value? (byte : UInt8) : Option Nat :=
  if 65 ≤ byte ∧ byte ≤ 90 then some (byte.toNat - 65)
  else if 97 ≤ byte ∧ byte ≤ 122 then some (byte.toNat - 71)
  else if 48 ≤ byte ∧ byte ≤ 57 then some (byte.toNat + 4)
  else if byte = 43 then some 62
  else if byte = 47 then some 63
  else none

/-- Three bytes make four symbols, and the last one or two bytes are padded. -/
def encode : List UInt8 → List UInt8
  | [] => []
  | [a] => [symbol (a.toNat / 4), symbol (a.toNat % 4 * 16), pad, pad]
  | [a, b] =>
    [symbol (a.toNat / 4), symbol (a.toNat % 4 * 16 + b.toNat / 16),
      symbol (b.toNat % 16 * 4), pad]
  | a :: b :: c :: rest =>
    symbol (a.toNat / 4) :: symbol (a.toNat % 4 * 16 + b.toNat / 16) ::
      symbol (b.toNat % 16 * 4 + c.toNat / 64) :: symbol (c.toNat % 64) :: encode rest

def encodeText (bytes : List UInt8) : String :=
  String.ofList ((encode bytes).map fun byte => Char.ofNat byte.toNat)

/-- A reason why bytes are not base64. -/
inductive Fault where
  | symbol (byte : UInt8) (offset : Nat)
  | lastSymbol (byte : UInt8) (offset : Nat)
  | length (count : Nat)
  | padding
  deriving DecidableEq, Repr

namespace Fault

def message : Fault → String
  | symbol byte offset => s!"Invalid symbol {byte}, offset {offset}."
  | lastSymbol byte offset => s!"Invalid last symbol {byte}, offset {offset}."
  | length count => s!"Invalid input length: {count}"
  | padding => "Invalid padding"

end Fault

/-- The values of symbols, or the first byte that is not one. -/
def values (offset : Nat) : List UInt8 → Except Fault (List Nat)
  | [] => .ok []
  | byte :: rest =>
    match value? byte with
    | none => .error (.symbol byte offset)
    | some value =>
      match values (offset + 1) rest with
      | .error fault => .error fault
      | .ok values => .ok (value :: values)

/-- The three bytes of a full quad. -/
def quadBytes (a b c d : Nat) : List UInt8 :=
  [UInt8.ofNat (a * 4 + b / 16), UInt8.ofNat (b % 16 * 16 + c / 4), UInt8.ofNat (c % 4 * 64 + d)]

/-- The symbols of the last quad come first, then its padding. -/
def lastSymbols (start : Nat) (position : Nat) : List UInt8 → Except Fault (List Nat)
  | [] => .ok []
  | byte :: rest =>
    if byte = pad then
      if position < 2 then .error (.symbol byte (start + position))
      else if rest.all (· = pad) then .ok [] else .error (.symbol pad (start + position))
    else
      match value? byte with
      | none => .error (.symbol byte (start + position))
      | some value =>
        match lastSymbols start (position + 1) rest with
        | .error fault => .error fault
        | .ok values => .ok (value :: values)

/-- The bytes of the last quad, which starts at an offset and has one to four bytes. -/
def decodeLast (start : Nat) (quad : List UInt8) : Except Fault (List UInt8) :=
  match lastSymbols start 0 quad with
  | .error fault => .error fault
  | .ok symbols =>
    if quad.isEmpty then .ok []
    else if symbols.length < 2 then .error (.length (start + symbols.length))
    else if quad.length ≠ 4 then .error .padding
    else
      match symbols with
      | [a, b] =>
        if b % 16 = 0 then .ok [UInt8.ofNat (a * 4 + b / 16)]
        else .error (.lastSymbol (symbol b) (start + 1))
      | [a, b, c] =>
        if c % 4 = 0 then .ok [UInt8.ofNat (a * 4 + b / 16), UInt8.ofNat (b % 16 * 16 + c / 4)]
        else .error (.lastSymbol (symbol c) (start + 2))
      | [a, b, c, d] => .ok (quadBytes a b c d)
      | _ => .error .padding

/-- Every quad but the last holds four symbols. -/
def decodeQuads (offset : Nat) : List UInt8 → Except Fault (List UInt8)
  | a :: b :: c :: d :: e :: rest =>
    match values offset [a, b, c, d] with
    | .ok [a, b, c, d] =>
      match decodeQuads (offset + 4) (e :: rest) with
      | .error fault => .error fault
      | .ok bytes => .ok (quadBytes a b c d ++ bytes)
    | .ok _ => .error .padding
    | .error fault => .error fault
  | quad => decodeLast offset quad

/-- A lone byte after the last full quad must at least be a symbol or a pad. -/
def loneFault (input : List UInt8) : Option Fault :=
  match input.getLast? with
  | none => none
  | some byte =>
    if input.length % 4 = 1 ∧ byte ≠ pad ∧ value? byte = none then
      some (.symbol byte (input.length - 1))
    else none

/-- The bytes that base64 text stands for. -/
def decode (input : List UInt8) : Except Fault (List UInt8) :=
  match loneFault input with
  | some fault => .error fault
  | none => decodeQuads 0 input

/-- This is `decode` on a text. -/
def decodeText (text : String) : Except Fault (List UInt8) :=
  decode (Text.utf8Bytes text)

end Issuance.Base64
