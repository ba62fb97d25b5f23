import Issuance.Encoding.Json
import Issuance.Text.Digit

/- YAML in block style, with two blanks for each level. -/
namespace Issuance.Yaml

/-- Words that stand for other values than text. -/
def reservedWords : List String := ["", "~", "null", "true", "false", "yes", "no", "on", "off"]

/-- Characters that cannot start a plain text. -/
def indicators : List Char :=
  ['-', '?', ':', ',', '[', ']', '\x7b', '\x7d', '#', '&', '*', '!', '|', '>', '"', '%', '@',
   '\x60', '\x27', ' ']

/-- A text that starts like a number could be taken for one. -/
def startsLikeNumber (text : List Char) : Bool :=
  match text with
  | [] => false
  | [first] => Text.isAsciiDigit first
  | first :: second :: _ =>
    Text.isAsciiDigit first || (first ∈ ['-', '+', '.'] && Text.isAsciiDigit second)

/-- A plain text stands for itself. -/
def isPlain (text : String) : Bool :=
  let characters := text.toList
  let startsBadly :=
    match characters with
    | [] => true
    | first :: _ => first ∈ indicators
  !(text.toLower ∈ reservedWords || startsBadly || startsLikeNumber characters ||
    Text.mentions text ": " || Text.mentions text " #" ||
    characters.getLast? ∈ [some ' ', some ':'])

/-- Inside quotes a quote is written twice. -/
def quoted (text : String) : String :=
  "'" ++ String.ofList (text.toList.flatMap fun character =>
    if character = '\x27' then ['\x27', '\x27'] else [character]) ++ "'"

/-- A value takes one line, or it takes lines of its own. -/
inductive Layout where
  | inline (text : String)
  | literal (lines : List String)
  | mapping (lines : List String)
  | sequence (lines : List String)
  deriving Repr

/-- A line one level deeper. -/
def deeper (line : String) : String := "  " ++ line

namespace Layout

/-- A member of a mapping, whose sequences are not indented. -/
def member (name : String) : Layout → List String
  | inline text => [name ++ ": " ++ text]
  | literal lines => (name ++ ": |-") :: lines.map deeper
  | mapping lines => (name ++ ":") :: lines.map deeper
  | sequence lines => (name ++ ":") :: lines

/-- An item of a sequence. -/
def item : Layout → List String
  | inline text => ["- " ++ text]
  | literal lines => "- |-" :: lines.map deeper
  | mapping [] => []
  | mapping (first :: lines) => ("- " ++ first) :: lines.map deeper
  | sequence [] => []
  | sequence (first :: lines) => ("- " ++ first) :: lines.map deeper

def lines : Layout → List String
  | inline text => [text]
  | literal lines => "|-" :: lines.map deeper
  | mapping lines => lines
  | sequence lines => lines

end Layout

/-- A text of several lines is written as it is. -/
def textLayout (text : String) : Layout :=
  if '\n' ∈ text.toList then .literal ((text.toList.splitOn '\n').map String.ofList)
  else .inline (if isPlain text then text else quoted text)

mutual

/-- The layout of a value. -/
def layout : Json → Layout
  | .null => .inline "null"
  | .bool value => .inline (toString value)
  | .number mantissa places =>
    .inline (if places = 0 then toString mantissa else s!"{mantissa}e-{places}")
  | .text value => textLayout value
  | .list [] => .inline "[]"
  | .list (item :: items) => .sequence ((layout item).item ++ itemLines items)
  | .record [] => .inline "\x7b\x7d"
  | .record ((name, value) :: members) =>
    .mapping ((layout value).member name ++ memberLines members)

/-- The lines of the items of a sequence. -/
def itemLines : List Json → List String
  | [] => []
  | item :: items => (layout item).item ++ itemLines items

/-- The lines of the members of a mapping. -/
def memberLines : List (String × Json) → List String
  | [] => []
  | (name, value) :: members => (layout value).member name ++ memberLines members

end

/-- The text of a document, in which every line ends with a line feed. -/
def document (json : Json) : String :=
  String.join ((layout json).lines.map fun line => line ++ "\n")

end Issuance.Yaml
