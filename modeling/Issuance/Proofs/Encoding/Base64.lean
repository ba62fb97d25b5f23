import Issuance.Encoding.Base64
import Issuance.Proofs.Text.Trimming
import Issuance.Proofs.Text.Utf8

namespace Issuance

namespace Text

/-- Text of bytes below 128 is encoded as these bytes. -/
theorem utf8Bytes_ascii {bytes : List UInt8} (ascii : ∀ byte ∈ bytes, byte.toNat < 128) :
    utf8Bytes (String.ofList (bytes.map fun byte => Char.ofNat byte.toNat)) = bytes := by
  rw [utf8Bytes, String.toList_ofList]
  induction bytes with
  | nil => rfl
  | cons byte bytes ih =>
      have first := utf8EncodeChar_one (ascii byte List.mem_cons_self)
      have rest := ih fun later member => ascii later (List.mem_cons_of_mem _ member)
      rw [List.map_cons, List.flatMap_cons, first, rest, UInt8.ofNat_toNat]
      rfl

end Text

namespace Base64

theorem value?_symbol : ∀ value < 64, value? (symbol value) = some value := by decide

theorem symbol_ne_pad : ∀ value < 64, symbol value ≠ pad := by decide

/-- A byte that base64 is written with. -/
def IsLetter (byte : UInt8) : Prop := byte = pad ∨ ∃ value < 64, byte = symbol value

/-- Letters are ASCII, and none of them is a blank or a dash. -/
theorem IsLetter.plain {byte : UInt8} (letter : IsLetter byte) :
    byte.toNat < 128 ∧ byte ≠ 45 ∧ Text.isBlank (Char.ofNat byte.toNat) = false := by
  have symbols : ∀ value < 64, (symbol value).toNat < 128 ∧ symbol value ≠ 45 ∧
      Text.isBlank (Char.ofNat (symbol value).toNat) = false := by decide
  obtain rfl | ⟨value, small, rfl⟩ := letter
  · decide
  · exact symbols value small

/-- The values of the symbols for up to three bytes. -/
theorem quad_lt (a b c : UInt8) :
    a.toNat / 4 < 64 ∧ a.toNat % 4 * 16 < 64 ∧ a.toNat % 4 * 16 + b.toNat / 16 < 64 ∧
      b.toNat % 16 * 4 < 64 ∧ b.toNat % 16 * 4 + c.toNat / 64 < 64 ∧ c.toNat % 64 < 64 := by
  have ha := a.toNat_lt
  have hb := b.toNat_lt
  have hc := c.toNat_lt
  omega

/-- Only letters are written. -/
theorem encode_letters (bytes : List UInt8) : ∀ byte ∈ encode bytes, IsLetter byte := by
  have written {value : Nat} (small : value < 64) : IsLetter (symbol value) := .inr ⟨_, small, rfl⟩
  fun_induction encode bytes with
  | case1 => nofun
  | case2 a =>
      obtain ⟨first, second, _⟩ := quad_lt a 0 0
      simp only [List.forall_mem_cons, written first, written second, true_and]
      exact ⟨.inl rfl, .inl rfl, nofun⟩
  | case3 a b =>
      obtain ⟨first, _, second, third, _⟩ := quad_lt a b 0
      simp only [List.forall_mem_cons, written first, written second, written third, true_and]
      exact ⟨.inl rfl, nofun⟩
  | case4 a b c rest ih =>
      obtain ⟨first, _, second, _, third, fourth⟩ := quad_lt a b c
      simp only [List.forall_mem_cons, written first, written second, written third,
        written fourth, true_and]
      exact ih

/-- All that is written is ASCII. -/
theorem encode_ascii (bytes : List UInt8) : ∀ byte ∈ encode bytes, byte.toNat < 128 :=
  fun byte member => (encode_letters bytes byte member).plain.1

theorem length_encode_mod (bytes : List UInt8) : (encode bytes).length % 4 = 0 := by
  fun_induction encode bytes with
  | case1 => rfl
  | case2 a => simp
  | case3 a b => simp
  | case4 a b c rest ih =>
      simp only [List.length_cons]
      omega

theorem encode_ne_nil {bytes : List UInt8} (filled : bytes ≠ []) : encode bytes ≠ [] := by
  match bytes with
  | [_] => simp [encode]
  | [_, _] => simp [encode]
  | _ :: _ :: _ :: _ => simp [encode]

theorem quadBytes_quad (a b c : UInt8) :
    quadBytes (a.toNat / 4) (a.toNat % 4 * 16 + b.toNat / 16) (b.toNat % 16 * 4 + c.toNat / 64)
      (c.toNat % 64) = [a, b, c] := by
  have ha := a.toNat_lt
  have hb := b.toNat_lt
  have hc := c.toNat_lt
  have first : a.toNat / 4 * 4 + (a.toNat % 4 * 16 + b.toNat / 16) / 16 = a.toNat := by omega
  have second : (a.toNat % 4 * 16 + b.toNat / 16) % 16 * 16 +
      (b.toNat % 16 * 4 + c.toNat / 64) / 4 = b.toNat := by omega
  have third : (b.toNat % 16 * 4 + c.toNat / 64) % 4 * 64 + c.toNat % 64 = c.toNat := by omega
  rw [quadBytes, first, second, third, UInt8.ofNat_toNat, UInt8.ofNat_toNat, UInt8.ofNat_toNat]

section Last

variable {x y z w : Nat} (hx : x < 64) (hy : y < 64) (offset : Nat)

include hx hy

theorem decodeLast_two (full : y % 16 = 0) :
    decodeLast offset [symbol x, symbol y, pad, pad] = .ok [UInt8.ofNat (x * 4 + y / 16)] := by
  have read : lastSymbols offset 0 [symbol x, symbol y, pad, pad] = .ok [x, y] := by
    simp [lastSymbols, value?_symbol, symbol_ne_pad, hx, hy]
  rw [decodeLast, read]
  exact if_pos full

theorem decodeLast_three (hz : z < 64) (full : z % 4 = 0) :
    decodeLast offset [symbol x, symbol y, symbol z, pad] =
      .ok [UInt8.ofNat (x * 4 + y / 16), UInt8.ofNat (y % 16 * 16 + z / 4)] := by
  have read : lastSymbols offset 0 [symbol x, symbol y, symbol z, pad] = .ok [x, y, z] := by
    simp [lastSymbols, value?_symbol, symbol_ne_pad, hx, hy, hz]
  rw [decodeLast, read]
  exact if_pos full

theorem decodeLast_four (hz : z < 64) (hw : w < 64) :
    decodeLast offset [symbol x, symbol y, symbol z, symbol w] = .ok (quadBytes x y z w) := by
  have read : lastSymbols offset 0 [symbol x, symbol y, symbol z, symbol w] = .ok [x, y, z, w] := by
    simp [lastSymbols, value?_symbol, symbol_ne_pad, hx, hy, hz, hw]
  rw [decodeLast, read]
  rfl

end Last

/-- Quads are read back one by one, and the last one with its padding. -/
theorem decodeQuads_encode (bytes : List UInt8) (offset : Nat) :
    decodeQuads offset (encode bytes) = .ok bytes := by
  fun_induction encode bytes generalizing offset with
  | case1 => rfl
  | case2 a =>
      obtain ⟨first, second, _⟩ := quad_lt a 0 0
      have whole : a.toNat / 4 * 4 + a.toNat % 4 * 16 / 16 = a.toNat := by omega
      rw [decodeQuads, decodeLast_two first second offset (Nat.mul_mod_left _ _), whole,
        UInt8.ofNat_toNat]
      simp
  | case3 a b =>
      obtain ⟨first, _, second, third, _⟩ := quad_lt a b 0
      have ha := a.toNat_lt
      have hb := b.toNat_lt
      have left : a.toNat / 4 * 4 + (a.toNat % 4 * 16 + b.toNat / 16) / 16 = a.toNat := by omega
      have right :
          (a.toNat % 4 * 16 + b.toNat / 16) % 16 * 16 + b.toNat % 16 * 4 / 4 = b.toNat := by
        omega
      rw [decodeQuads, decodeLast_three first second offset third (Nat.mul_mod_left _ _), left,
        right, UInt8.ofNat_toNat, UInt8.ofNat_toNat]
      simp
  | case4 a b c rest ih =>
      obtain ⟨first, _, second, _, third, fourth⟩ := quad_lt a b c
      have quad := quadBytes_quad a b c
      cases rest with
      | nil =>
        rw [encode, decodeQuads, decodeLast_four first second offset third fourth, quad]
        simp
      | cons next rest =>
        have filled := encode_ne_nil (List.cons_ne_nil next rest)
        obtain ⟨symbol, more, written⟩ := List.exists_cons_of_ne_nil filled
        have continued := ih (offset + 4)
        rw [written] at continued ⊢
        simp [decodeQuads, values, value?_symbol, first, second, third, fourth, quad, continued]

/-- What is written is read back. -/
theorem decode_encode (bytes : List UInt8) : decode (encode bytes) = .ok bytes := by
  have even : (encode bytes).length % 4 ≠ 1 := by
    rw [length_encode_mod]
    decide
  have faultless : loneFault (encode bytes) = none := by
    unfold loneFault
    cases (encode bytes).getLast? with
    | none => rfl
    | some byte => simp [even]
  rw [decode, faultless]
  exact decodeQuads_encode bytes 0

/-- Text that is written is read back. -/
theorem decodeText_encodeText (bytes : List UInt8) : decodeText (encodeText bytes) = .ok bytes := by
  rw [decodeText, encodeText, Text.utf8Bytes_ascii (encode_ascii bytes), decode_encode]

/-- Text that is written is read back, also with blanks around it. -/
theorem decodeText_trim_encodeText {before after : String} (bytes : List UInt8)
    (leading : Text.isBlankText before) (trailing : Text.isBlankText after) :
    decodeText (Text.trim (before ++ (encodeText bytes ++ after))) = .ok bytes := by
  have pads : Text.Pads (encodeText bytes) (before ++ (encodeText bytes ++ after)) :=
    ⟨before, after, leading, trailing, rfl⟩
  have visible : ∀ character ∈ (encodeText bytes).toList, Text.isBlank character = false := by
    rw [encodeText, String.toList_ofList, List.forall_mem_map]
    exact fun byte member => (encode_letters bytes byte member).plain.2.2
  rw [pads.trim_eq, (Text.isTrimmed_of_visible visible).trim_eq, decodeText_encodeText]

end Base64

end Issuance
