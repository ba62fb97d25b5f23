namespace Issuance.Der

/-- A tag is a class, a form and a number. -/
structure Tag where
  category : Nat
  constructed : Bool
  number : Nat
  deriving DecidableEq, Repr

/-- An element is a tag and its contents. -/
structure Element where
  tag : Tag
  contents : List UInt8
  deriving DecidableEq, Repr

/-- A number in base 128 ends at the first byte below 128. -/
def readBase128 (value : Nat) : List UInt8 → Option (Nat × List UInt8)
  | [] => none
  | byte :: rest =>
    if byte < 128 then some (128 * value + byte.toNat, rest)
    else readBase128 (128 * value + (byte.toNat - 128)) rest

/-- A number in base 256. -/
def bigEndian (bytes : List UInt8) : Nat :=
  bytes.foldl (fun value byte => 256 * value + byte.toNat) 0

def readTag : List UInt8 → Option (Tag × List UInt8)
  | [] => none
  | byte :: rest =>
    let category := byte.toNat / 64
    let constructed := byte.toNat / 32 % 2 = 1
    if byte.toNat % 32 = 31 then
      match readBase128 0 rest with
      | none => none
      | some (number, rest) => some (⟨category, constructed, number⟩, rest)
    else some (⟨category, constructed, byte.toNat % 32⟩, rest)

/-- The length at the front, which has to be definite. -/
def readLength : List UInt8 → Option (Nat × List UInt8)
  | [] => none
  | byte :: rest =>
    if byte < 128 then some (byte.toNat, rest)
    else
      let count := byte.toNat - 128
      if count = 0 ∨ count = 127 ∨ rest.length < count then none
      else some (bigEndian (rest.take count), rest.drop count)

/-- The tag and the length at the front. -/
def readHeader (input : List UInt8) : Option (Tag × Nat × List UInt8) :=
  match readTag input with
  | none => none
  | some (tag, afterTag) => (readLength afterTag).map fun (length, rest) => (tag, length, rest)

/-- The element at the front and what follows it. -/
def readElement (input : List UInt8) : Option (Element × List UInt8) :=
  match readHeader input with
  | none => none
  | some (tag, length, rest) =>
    if rest.length < length then none
    else some (⟨tag, rest.take length⟩, rest.drop length)

/-- The contents of an element whose tag must have the given number. -/
def expect (number : Nat) (input : List UInt8) : Option (List UInt8 × List UInt8) :=
  match readElement input with
  | none => none
  | some (element, rest) =>
    if element.tag.number = number then some (element.contents, rest) else none

/-- The contents of an element that must not hold other elements. -/
def expectPrimitive (number : Nat) (input : List UInt8) : Option (List UInt8 × List UInt8) :=
  match readElement input with
  | none => none
  | some (element, rest) =>
    if element.tag.number = number ∧ element.tag.constructed = false then
      some (element.contents, rest)
    else none

/-- A sequence has number 16. -/
def expectSequence (input : List UInt8) : Option (List UInt8 × List UInt8) :=
  expect 16 input

/-- The numbers of a base-128 list, where the last one may break off. -/
def readArcs (value : Nat) (started : Bool) : List UInt8 → List Nat
  | [] => if started then [value % UInt64.size] else []
  | byte :: rest =>
    if byte < 128 then (128 * value + byte.toNat) :: readArcs 0 false rest
    else readArcs (128 * value + (byte.toNat - 128)) true rest

/-- The greatest count of bytes that a complete number of a base-128 list takes. -/
def widestArc (width : Nat) : List UInt8 → Nat
  | [] => 0
  | byte :: rest =>
    if byte < 128 then max (width + 1) (widestArc 0 rest) else widestArc (width + 1) rest

/-- Bytes as pairs of hexadecimal digits with spaces between them. -/
def hexText (bytes : List UInt8) : String :=
  String.intercalate " " (bytes.map fun byte =>
    String.ofList [Nat.digitChar (byte.toNat / 16), Nat.digitChar (byte.toNat % 16)])

/-- An object identifier is written in decimal with points, where the first byte holds two
numbers. One with a number beyond 64 bits is written as its bytes. -/
def identifierText : List UInt8 → String
  | [] => ""
  | [0] => "0"
  | first :: rest =>
    if widestArc 0 rest ≤ 9 then
      String.intercalate "."
        ((first.toNat / 40 :: first.toNat % 40 :: readArcs 0 false rest).map Nat.repr)
    else hexText (first :: rest)

end Issuance.Der
