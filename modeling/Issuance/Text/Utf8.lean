namespace Issuance.Text

/-- A fault says where the first sequence that is not UTF-8 starts. -/
inductive Utf8Fault where
  | invalid (length index : Nat)
  | incomplete (index : Nat)
  deriving DecidableEq, Repr

namespace Utf8Fault

def message : Utf8Fault → String
  | invalid length index => s!"invalid utf-8 sequence of {length} bytes from index {index}"
  | incomplete index => s!"incomplete utf-8 byte sequence from index {index}"

end Utf8Fault

/-- A text as its UTF-8 bytes. -/
def utf8Bytes (text : String) : List UInt8 :=
  text.toList.flatMap String.utf8EncodeChar

/-- The ranges of the bytes that must follow a leading byte. -/
def continuationRanges (lead : UInt8) : Option (List (UInt8 × UInt8)) :=
  if lead < 0x80 then some []
  else if lead < 0xC2 then none
  else if lead < 0xE0 then some [(0x80, 0xBF)]
  else if lead = 0xE0 then some [(0xA0, 0xBF), (0x80, 0xBF)]
  else if lead = 0xED then some [(0x80, 0x9F), (0x80, 0xBF)]
  else if lead < 0xF0 then some [(0x80, 0xBF), (0x80, 0xBF)]
  else if lead = 0xF0 then some [(0x90, 0xBF), (0x80, 0xBF), (0x80, 0xBF)]
  else if lead < 0xF4 then some [(0x80, 0xBF), (0x80, 0xBF), (0x80, 0xBF)]
  else if lead = 0xF4 then some [(0x80, 0x8F), (0x80, 0xBF), (0x80, 0xBF)]
  else none

/-- The payload bits of a leading byte. -/
def leadValue (lead : UInt8) : Nat :=
  if lead < 0x80 then lead.toNat
  else if lead < 0xE0 then lead.toNat - 0xC0
  else if lead < 0xF0 then lead.toNat - 0xE0
  else lead.toNat - 0xF0

/-- Reading continuation bytes yields the code point and the bytes after it. -/
def takeContinuations (index matched value : Nat) :
    List (UInt8 × UInt8) → List UInt8 → Except Utf8Fault (Nat × List UInt8)
  | [], rest => .ok (value, rest)
  | _ :: _, [] => .error (.incomplete index)
  | (low, high) :: ranges, byte :: rest =>
    if low ≤ byte ∧ byte ≤ high then
      takeContinuations index (matched + 1) (64 * value + (byte.toNat - 0x80)) ranges rest
    else .error (.invalid matched index)

/-- Continuation bytes are read off the front. -/
theorem takeContinuations_length {index matched value : Nat} {ranges : List (UInt8 × UInt8)}
    {bytes rest : List UInt8} {code : Nat}
    (taken : takeContinuations index matched value ranges bytes = .ok (code, rest)) :
    rest.length ≤ bytes.length := by
  induction ranges generalizing bytes matched value with
  | nil => simp [takeContinuations] at taken; simp [taken.2]
  | cons range ranges inductionHypothesis =>
    cases bytes with
    | nil => simp [takeContinuations] at taken
    | cons byte bytes =>
      simp only [takeContinuations] at taken
      split at taken
      · exact Nat.le_succ_of_le (inductionHypothesis taken)
      · simp at taken

/-- Decoding starts at a byte index, which faults report. -/
def decodeUtf8From (index : Nat) (bytes : List UInt8) : Except Utf8Fault (List Char) :=
  match bytes with
  | [] => .ok []
  | lead :: bytes =>
    match continuationRanges lead with
    | none => .error (.invalid 1 index)
    | some ranges =>
      match _taken : takeContinuations index 1 (leadValue lead) ranges bytes with
      | .error fault => .error fault
      | .ok (code, rest) =>
        match decodeUtf8From (index + 1 + ranges.length) rest with
        | .error fault => .error fault
        | .ok characters => .ok (Char.ofNat code :: characters)
  termination_by bytes.length
  decreasing_by
    have shorter := takeContinuations_length (by assumption)
    simp only [List.length_cons]
    omega

/-- The characters that bytes encode. -/
def decodeUtf8 (bytes : List UInt8) : Except Utf8Fault (List Char) :=
  decodeUtf8From 0 bytes

end Issuance.Text
