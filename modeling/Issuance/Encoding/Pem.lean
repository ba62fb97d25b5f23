import Issuance.Encoding.Base64
import Issuance.Text.Blank

namespace Issuance.Pem

/-- A block holds its label, its header lines and its contents. -/
structure Block where
  label : String
  headers : List String
  contents : List UInt8
  deriving DecidableEq, Repr

/-- A reason why bytes are not a block. -/
inductive Fault where
  | malformedFraming
  | missingBeginLabel
  | missingEndLabel
  | mismatchedLabels (beginLabel endLabel : String)
  | notUtf8 (fault : Text.Utf8Fault)
  | data (fault : Base64.Fault)
  | header (line : String)
  deriving DecidableEq, Repr

namespace Fault

def message : Fault → String
  | malformedFraming => "malformedframing"
  | missingBeginLabel => "missing BEGIN tag"
  | missingEndLabel => "missing END tag"
  | mismatchedLabels beginLabel endLabel =>
    s!"mismatching BEGIN (\"{beginLabel}\") and END (\"{endLabel}\") tags"
  | notUtf8 fault => "invalid utf-8 value: " ++ fault.message
  | data fault => "invalid data: " ++ fault.message
  | header line => "invalid header: " ++ line

end Fault

/-- The search compares byte by byte and starts over after a byte that differs. -/
def searchFrom (marker pending seen input : List UInt8) : Option (List UInt8 × List UInt8) :=
  match pending, input with
  | [], rest => some ((seen.drop marker.length).reverse, rest)
  | _ :: _, [] => none
  | wanted :: pending, byte :: rest =>
    if byte = wanted then searchFrom marker pending (byte :: seen) rest
    else searchFrom marker marker (byte :: seen) rest

/-- The bytes before and after the first marker that the search finds. -/
def splitAt? (marker input : List UInt8) : Option (List UInt8 × List UInt8) :=
  searchFrom marker marker [] input

/-- The marker itself is consumed. -/
theorem searchFrom_length {marker pending seen input before after : List UInt8}
    (found : searchFrom marker pending seen input = some (before, after)) :
    after.length + min 1 pending.length ≤ input.length := by
  fun_induction searchFrom marker pending seen input with
  | case1 => simp at found; simp [found.2]
  | case2 => simp at found
  | case3 seen wanted pending rest inductionHypothesis =>
    have shorter := inductionHypothesis found
    simp only [List.length_cons]
    omega
  | case4 seen wanted pending byte rest differs inductionHypothesis =>
    have shorter := inductionHypothesis found
    simp only [List.length_cons]
    omega

/-- A split leaves no more than the input. -/
theorem splitAt?_length {marker input before after : List UInt8}
    (found : splitAt? marker input = some (before, after)) :
    after.length + min 1 marker.length ≤ input.length :=
  searchFrom_length found

/-- Spaces, tabs and line ends separate a block from what follows. -/
def skipSpace (input : List UInt8) : List UInt8 :=
  input.dropWhile fun byte => byte == 32 || byte == 9 || byte == 13 || byte == 10

/-- Skipping drops bytes only. -/
theorem skipSpace_length (input : List UInt8) : (skipSpace input).length ≤ input.length :=
  (List.dropWhile_sublist _).length_le

def dashes : List UInt8 := [45, 45, 45, 45, 45]

def beginMark : List UInt8 := dashes ++ [66, 69, 71, 73, 78, 32]

def endMark : List UInt8 := dashes ++ [69, 78, 68, 32]

/-- A frame is a block whose parts have not been checked. -/
structure Frame where
  beginLabel : List UInt8
  headers : List UInt8
  data : List UInt8
  endLabel : List UInt8
  deriving DecidableEq, Repr

/-- Headers end at the first empty line. -/
def splitHeaders (body : List UInt8) : List UInt8 × List UInt8 :=
  match splitAt? [10, 10] body with
  | some parts => parts
  | none => (splitAt? [13, 10, 13, 10] body).getD ([], body)

/-- The first frame of the input and what follows it. -/
def nextFrame (input : List UInt8) : Option (Frame × List UInt8) :=
  match splitAt? beginMark input with
  | none => none
  | some (_, afterMark) =>
    match splitAt? dashes afterMark with
    | none => none
    | some (beginLabel, afterBegin) =>
      match splitAt? endMark (skipSpace afterBegin) with
      | none => none
      | some (body, afterBody) =>
        match splitAt? dashes afterBody with
        | none => none
        | some (endLabel, afterEnd) =>
          let (headers, data) := splitHeaders body
          some (⟨beginLabel, headers, data, endLabel⟩, skipSpace afterEnd)

/-- A frame takes at least one byte. -/
theorem nextFrame_length {input rest : List UInt8} {frame : Frame}
    (found : nextFrame input = some (frame, rest)) : rest.length < input.length := by
  unfold nextFrame at found
  split at found
  · simp at found
  · rename_i before afterMark markFound
    split at found
    · simp at found
    · rename_i beginLabel afterBegin beginFound
      split at found
      · simp at found
      · rename_i body afterBody bodyFound
        split at found
        · simp at found
        · rename_i endLabel afterEnd endFound
          simp only [Option.some.injEq, Prod.mk.injEq] at found
          have first := splitAt?_length markFound
          have second := splitAt?_length beginFound
          have third := splitAt?_length bodyFound
          have fourth := splitAt?_length endFound
          have skipped := skipSpace_length afterBegin
          have skippedEnd := skipSpace_length afterEnd
          rw [← found.2]
          simp only [beginMark, dashes, List.length_append, List.length_cons,
            List.length_nil] at first
          omega

/-- Lines end at line feeds, where a carriage return before one belongs to the line end. -/
def splitLines : List Char → List (List Char)
  | [] => []
  | character :: text =>
    if character = '\n' then [] :: splitLines text
    else
      match splitLines text, text with
      | line :: lines, next :: _ =>
        if character = '\r' ∧ next = '\n' then line :: lines
        else (character :: line) :: lines
      | _, _ => [[character]]

/-- A header line names its field before a colon. -/
def checkHeaders : List (List Char) → Except Fault (List String)
  | [] => .ok []
  | line :: lines =>
    if ':' ∈ line then
      match checkHeaders lines with
      | .error fault => .error fault
      | .ok headers => .ok (String.ofList line :: headers)
    else .error (.header (String.ofList line))

/-- Text of a part of a frame. -/
def decodePart (part : List UInt8) : Except Fault (List Char) :=
  match Text.decodeUtf8 part with
  | .error fault => .error (.notUtf8 fault)
  | .ok characters => .ok characters

/-- Blanks do not count in the data of a frame. -/
def decodeData (data : List Char) : Except Fault (List UInt8) :=
  match Base64.decode ((data.filter fun character => !Text.isBlank character).flatMap
      String.utf8EncodeChar) with
  | .error fault => .error (.data fault)
  | .ok contents => .ok contents

namespace Frame

/-- The block of a frame whose parts are all in order. -/
def block (frame : Frame) : Except Fault Block := do
  let beginLabel ← decodePart frame.beginLabel
  if beginLabel.isEmpty then throw .missingBeginLabel
  let endLabel ← decodePart frame.endLabel
  if endLabel.isEmpty then throw .missingEndLabel
  if beginLabel ≠ endLabel then
    throw (.mismatchedLabels (String.ofList beginLabel) (String.ofList endLabel))
  let data ← decodePart frame.data
  let contents ← decodeData data
  let headerText ← decodePart frame.headers
  let headers ← checkHeaders (splitLines headerText)
  return ⟨String.ofList beginLabel, headers, contents⟩

end Frame

/-- The first block of the input. -/
def decode (input : List UInt8) : Except Fault Block :=
  match nextFrame input with
  | none => .error .malformedFraming
  | some (frame, _) => frame.block

/-- Every frame of the input in order. -/
def frames (input : List UInt8) : List Frame :=
  match _found : nextFrame input with
  | none => []
  | some (frame, rest) => frame :: frames rest
  termination_by input.length
  decreasing_by exact nextFrame_length (by assumption)

/-- Every block of the input in order, where text between blocks does not count. -/
def decodeAll (input : List UInt8) : Except Fault (List Block) :=
  (frames input).mapM Frame.block

/-- Lines have at most 64 bytes. -/
def wrapLines (bytes : List UInt8) : List UInt8 :=
  match bytes with
  | [] => []
  | byte :: rest => byte :: rest.take 63 ++ [10] ++ wrapLines (rest.drop 63)
  termination_by bytes.length
  decreasing_by
    simp only [List.length_drop, List.length_cons]
    omega

namespace Block

/-- Headers come before the data and end with an empty line. -/
def headerBytes (block : Block) : List UInt8 :=
  if block.headers.isEmpty then []
  else
    (block.headers.flatMap fun line => Text.utf8Bytes (Text.trim line) ++ [10]) ++ [10]

def encode (block : Block) : List UInt8 :=
  beginMark ++ Text.utf8Bytes block.label ++ dashes ++ [10] ++ block.headerBytes ++
    wrapLines (Base64.encode block.contents) ++
    endMark ++ Text.utf8Bytes block.label ++ dashes ++ [10]

end Block

end Issuance.Pem
