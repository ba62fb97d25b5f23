namespace Issuance.Text

/-- A code point lies in one of the inclusive ranges. -/
def inRanges (ranges : List (Nat × Nat)) (code : Nat) : Bool :=
  ranges.any fun range => range.1 ≤ code && code ≤ range.2

/-- These code points have the White_Space property. -/
def blankRanges : List (Nat × Nat) :=
  [(0x9, 0xD), (0x20, 0x20), (0x85, 0x85), (0xA0, 0xA0), (0x1680, 0x1680), (0x2000, 0x200A),
   (0x2028, 0x2029), (0x202F, 0x202F), (0x205F, 0x205F), (0x3000, 0x3000)]

/-- A blank is a character with the White_Space property. -/
def isBlank (character : Char) : Bool :=
  inRanges blankRanges character.toNat

/-- Trimming drops the blanks at both ends. -/
def trimBlanks (text : List Char) : List Char :=
  ((text.dropWhile isBlank).reverse.dropWhile isBlank).reverse

/-- This is `trimBlanks` on a string. -/
def trim (text : String) : String :=
  String.ofList (trimBlanks text.toList)

/-- A blank text holds nothing but blanks. -/
def isBlankText (text : String) : Bool :=
  text.toList.all isBlank

/-- Occurrence of one text inside another. -/
def occurs (needle : List Char) : List Char → Bool
  | [] => needle.isEmpty
  | character :: rest => needle.isPrefixOf (character :: rest) || occurs needle rest

def mentions (text needle : String) : Bool :=
  occurs needle.toList text.toList

end Issuance.Text
