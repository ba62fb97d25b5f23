import Mathlib.Data.List.Forall2
import Issuance.Text.Utf8

namespace Issuance.Text

/-- Bytes lie in ranges, one by one. -/
def Fits (ranges : List (UInt8 × UInt8)) (bytes : List UInt8) : Prop :=
  List.Forall₂ (fun range byte => range.1 ≤ byte ∧ byte ≤ range.2) ranges bytes

/-- Every continuation byte adds six bits. -/
def extend (value : Nat) (bytes : List UInt8) : Nat :=
  bytes.foldl (fun value byte => 64 * value + (byte.toNat - 0x80)) value

def tailRange : UInt8 × UInt8 := (0x80, 0xBF)

/-- The second byte of a character is limited after four of the leading bytes. -/
def secondRange (lead : UInt8) : UInt8 × UInt8 :=
  (if lead = 0xE0 then 0xA0 else if lead = 0xF0 then 0x90 else 0x80,
    if lead = 0xED then 0x9F else if lead = 0xF4 then 0x8F else 0xBF)

section Continuations

variable {index matched value code : Nat} {ranges : List (UInt8 × UInt8)}
  {bytes used rest : List UInt8}

theorem takeContinuations_append (fits : Fits ranges used) :
    takeContinuations index matched value ranges (used ++ rest) =
      .ok (extend value used, rest) := by
  induction fits generalizing matched value with
  | nil => rw [List.nil_append, takeContinuations, extend, List.foldl_nil]
  | cons within fits ih =>
    rw [List.cons_append, takeContinuations, if_pos within, ih, extend, extend, List.foldl_cons]

/-- Bytes that are taken lie in the ranges. -/
theorem exists_fits_of_takeContinuations
    (taken : takeContinuations index matched value ranges bytes = .ok (code, rest)) :
    ∃ used, bytes = used ++ rest ∧ Fits ranges used ∧ code = extend value used := by
  induction ranges generalizing bytes matched value with
  | nil =>
    obtain ⟨rfl, rfl⟩ := Prod.mk.inj (Except.ok.inj taken)
    exact ⟨[], rfl, .nil, rfl⟩
  | cons range ranges ih =>
    cases bytes with
    | nil => cases taken
    | cons byte bytes =>
      rw [takeContinuations] at taken
      split at taken
      · next within =>
        obtain ⟨used, rfl, fits, same⟩ := ih taken
        refine ⟨byte :: used, rfl, .cons within fits, ?_⟩
        rw [same, extend, extend, List.foldl_cons]
      · cases taken

end Continuations

section Widths

variable {a b c d : Nat}

theorem toNat_ofNat_of_valid (valid : a.isValidChar) : (Char.ofNat a).val.toNat = a := by
  rw [Char.ofNat, dif_pos valid]
  exact Nat.add_zero a

theorem utf8EncodeChar_one (low : a < 128) :
    String.utf8EncodeChar (Char.ofNat a) = [UInt8.ofNat a] := by
  rw [String.utf8EncodeChar, toNat_ofNat_of_valid (.inl (by omega))]
  exact if_pos (by omega)

theorem utf8EncodeChar_two (ha : 2 ≤ a ∧ a < 32) (hb : b < 64) :
    String.utf8EncodeChar (Char.ofNat (64 * a + b)) =
      [UInt8.ofNat (a + 192), UInt8.ofNat (b + 128)] := by
  have first : (64 * a + b) / 64 % 32 = a := by omega
  have second : (64 * a + b) % 64 = b := by omega
  rw [String.utf8EncodeChar, toNat_ofNat_of_valid (.inl (by omega))]
  simp only [first, second]
  rw [if_neg (by omega), if_pos (by omega)]

theorem utf8EncodeChar_three (ha : a < 16) (hb : b < 64) (hc : c < 64) (low : 32 ≤ 64 * a + b)
    (plain : 64 * a + b < 864 ∨ 896 ≤ 64 * a + b) :
    String.utf8EncodeChar (Char.ofNat (64 * (64 * a + b) + c)) =
      [UInt8.ofNat (a + 224), UInt8.ofNat (b + 128), UInt8.ofNat (c + 128)] := by
  have first : (64 * (64 * a + b) + c) / 4096 % 16 = a := by omega
  have second : (64 * (64 * a + b) + c) / 64 % 64 = b := by omega
  have third : (64 * (64 * a + b) + c) % 64 = c := by omega
  have valid : (64 * (64 * a + b) + c).isValidChar := by
    unfold Nat.isValidChar
    omega
  rw [String.utf8EncodeChar, toNat_ofNat_of_valid valid]
  simp only [first, second, third]
  rw [if_neg (by omega), if_neg (by omega), if_pos (by omega)]

theorem utf8EncodeChar_four (hb : b < 64) (hc : c < 64) (hd : d < 64) (low : 16 ≤ 64 * a + b)
    (high : 64 * a + b < 272) :
    String.utf8EncodeChar (Char.ofNat (64 * (64 * (64 * a + b) + c) + d)) =
      [UInt8.ofNat (a + 240), UInt8.ofNat (b + 128), UInt8.ofNat (c + 128),
        UInt8.ofNat (d + 128)] := by
  have first : (64 * (64 * (64 * a + b) + c) + d) / 262144 % 8 = a := by omega
  have second : (64 * (64 * (64 * a + b) + c) + d) / 4096 % 64 = b := by omega
  have third : (64 * (64 * (64 * a + b) + c) + d) / 64 % 64 = c := by omega
  have fourth : (64 * (64 * (64 * a + b) + c) + d) % 64 = d := by omega
  rw [String.utf8EncodeChar, toNat_ofNat_of_valid (.inr (by omega))]
  simp only [first, second, third, fourth]
  rw [if_neg (by omega), if_neg (by omega), if_neg (by omega)]

end Widths

section Leads

variable {lead byte : UInt8} {ranges : List (UInt8 × UInt8)} {used : List UInt8}

/-- A leading byte tells how many bytes follow it. -/
theorem continuationRanges_eq (lead : UInt8) : continuationRanges lead =
    if lead.toNat < 128 then some []
    else if lead.toNat < 194 then none
    else if lead.toNat < 224 then some [secondRange lead]
    else if lead.toNat < 240 then some [secondRange lead, tailRange]
    else if lead.toNat < 245 then some [secondRange lead, tailRange, tailRange]
    else none := by
  by_cases special : lead = 0xE0 ∨ lead = 0xED ∨ lead = 0xF0 ∨ lead = 0xF4
  · obtain rfl | rfl | rfl | rfl := special <;> rfl
  · simp only [not_or] at special
    obtain ⟨first, second, third, fourth⟩ := special
    have last : lead.toNat < 245 ↔ lead.toNat < 244 := by
      have apart : lead.toNat ≠ 244 := fun same => fourth (UInt8.toNat_inj.mp same)
      omega
    have range : secondRange lead = tailRange := by
      rw [secondRange, if_neg first, if_neg third, if_neg second, if_neg fourth]
      rfl
    rw [range, if_congr last rfl rfl, continuationRanges, if_neg first, if_neg second,
      if_neg third, if_neg fourth]
    rfl

theorem within_tailRange : tailRange.1 ≤ byte ∧ byte ≤ tailRange.2 ↔
    128 ≤ byte.toNat ∧ byte.toNat < 192 := by
  simp only [tailRange, UInt8.le_iff_toNat_le]
  change 128 ≤ byte.toNat ∧ byte.toNat ≤ 191 ↔ _
  omega

theorem within_secondRange : (secondRange lead).1 ≤ byte ∧ byte ≤ (secondRange lead).2 ↔
    128 ≤ byte.toNat ∧ byte.toNat < 192 ∧ (lead.toNat = 224 → 160 ≤ byte.toNat) ∧
      (lead.toNat = 237 → byte.toNat < 160) ∧ (lead.toNat = 240 → 144 ≤ byte.toNat) ∧
      (lead.toNat = 244 → byte.toNat < 144) := by
  simp only [secondRange, UInt8.le_iff_toNat_le, ← UInt8.toNat_inj, apply_ite UInt8.toNat,
    UInt8.reduceToNat]
  split_ifs <;> omega

theorem leadValue_eq (lead : UInt8) : leadValue lead =
    if lead.toNat < 128 then lead.toNat
    else if lead.toNat < 224 then lead.toNat - 192
    else if lead.toNat < 240 then lead.toNat - 224
    else lead.toNat - 240 := by
  simp only [leadValue, UInt8.lt_iff_toNat_lt]
  rfl

theorem ofNat_sub_add {byte : UInt8} {low : Nat} (least : low ≤ byte.toNat) :
    UInt8.ofNat (byte.toNat - low + low) = byte := by
  rw [Nat.sub_add_cancel least, UInt8.ofNat_toNat]

/-- A leading byte and bytes that fit it encode one character. -/
theorem utf8EncodeChar_of_fits (leads : continuationRanges lead = some ranges)
    (fits : Fits ranges used) :
    String.utf8EncodeChar (Char.ofNat (extend (leadValue lead) used)) = lead :: used := by
  rw [continuationRanges_eq] at leads
  rw [leadValue_eq, extend]
  split_ifs at leads with one none two three four <;> cases leads
  · cases fits
    rw [if_pos one, List.foldl_nil, utf8EncodeChar_one one, UInt8.ofNat_toNat]
  · cases fits with | cons first fits =>
    cases fits
    rw [within_secondRange] at first
    rw [if_neg one, if_pos two, List.foldl_cons, List.foldl_nil,
      utf8EncodeChar_two (by omega) (by omega), ofNat_sub_add (by omega), ofNat_sub_add (by omega)]
  · cases fits with | cons first fits =>
    cases fits with | cons second fits =>
    cases fits
    rw [within_secondRange] at first
    rw [within_tailRange] at second
    rw [if_neg one, if_neg two, if_pos three, List.foldl_cons, List.foldl_cons, List.foldl_nil,
      utf8EncodeChar_three (by omega) (by omega) (by omega) (by omega) (by omega),
      ofNat_sub_add (by omega), ofNat_sub_add (by omega), ofNat_sub_add (by omega)]
  · cases fits with | cons first fits =>
    cases fits with | cons second fits =>
    cases fits with | cons third fits =>
    cases fits
    rw [within_secondRange] at first
    rw [within_tailRange] at second third
    rw [if_neg one, if_neg two, if_neg three, List.foldl_cons, List.foldl_cons, List.foldl_cons,
      List.foldl_nil, utf8EncodeChar_four (by omega) (by omega) (by omega) (by omega) (by omega),
      ofNat_sub_add (by omega), ofNat_sub_add (by omega), ofNat_sub_add (by omega),
      ofNat_sub_add (by omega)]

/-- Every character is encoded as a leading byte and bytes that fit it. -/
theorem exists_fits (character : Char) : ∃ lead used ranges,
    String.utf8EncodeChar character = lead :: used ∧ continuationRanges lead = some ranges ∧
      Fits ranges used ∧ extend (leadValue lead) used = character.toNat := by
  have valid : character.toNat.isValidChar := character.valid
  have same : character = Char.ofNat character.toNat := (Char.ofNat_toNat character).symm
  generalize character.toNat = code at valid same
  subst same
  have byte {value : Nat} (small : value < 256) : (UInt8.ofNat value).toNat = value :=
    UInt8.toNat_ofNat_of_lt' small
  unfold Nat.isValidChar at valid
  -- In each width the number is written out in the digits to base 64 that its bytes carry.
  obtain one | two | three | four :
    code < 128 ∨ 128 ≤ code ∧ code < 2048 ∨ 2048 ≤ code ∧ code < 65536 ∨ 65536 ≤ code := by omega
  · refine ⟨_, _, [], utf8EncodeChar_one one, ?_, .nil, ?_⟩
    · rw [continuationRanges_eq, byte (by omega), if_pos one]
    · rw [leadValue_eq, byte (by omega), if_pos one, extend, List.foldl_nil]
  · obtain ⟨a, b, rfl, hb⟩ : ∃ a b, code = 64 * a + b ∧ b < 64 :=
      ⟨code / 64, code % 64, by omega, by omega⟩
    refine ⟨_, _, [secondRange (.ofNat (a + 192))], utf8EncodeChar_two (by omega) hb, ?_,
      .cons ?_ .nil, ?_⟩
    · rw [continuationRanges_eq, byte (by omega), if_neg (by omega), if_neg (by omega),
        if_pos (by omega)]
    · rw [within_secondRange, byte (by omega), byte (by omega)]
      omega
    · rw [leadValue_eq, extend, List.foldl_cons, List.foldl_nil, byte (by omega), byte (by omega),
        if_neg (by omega), if_pos (by omega)]
      omega
  · obtain ⟨a, b, c, rfl, hb, hc⟩ : ∃ a b c, code = 64 * (64 * a + b) + c ∧ b < 64 ∧ c < 64 :=
      ⟨code / 4096, code / 64 % 64, code % 64, by omega, by omega, by omega⟩
    refine ⟨_, _, [secondRange (.ofNat (a + 224)), tailRange],
      utf8EncodeChar_three (by omega) hb hc (by omega) (by omega), ?_,
      .cons ?_ (.cons ?_ .nil), ?_⟩
    · rw [continuationRanges_eq, byte (by omega), if_neg (by omega), if_neg (by omega),
        if_neg (by omega), if_pos (by omega)]
    · rw [within_secondRange, byte (by omega), byte (by omega)]
      omega
    · rw [within_tailRange, byte (by omega)]
      omega
    · rw [leadValue_eq, extend, List.foldl_cons, List.foldl_cons, List.foldl_nil, byte (by omega),
        byte (by omega), byte (by omega), if_neg (by omega), if_neg (by omega), if_pos (by omega)]
      omega
  · obtain ⟨a, b, c, d, rfl, hb, hc, hd⟩ : ∃ a b c d,
        code = 64 * (64 * (64 * a + b) + c) + d ∧ b < 64 ∧ c < 64 ∧ d < 64 :=
      ⟨code / 262144, code / 4096 % 64, code / 64 % 64, code % 64, by omega, by omega, by omega,
        by omega⟩
    refine ⟨_, _, [secondRange (.ofNat (a + 240)), tailRange, tailRange],
      utf8EncodeChar_four hb hc hd (by omega) (by omega), ?_,
      .cons ?_ (.cons ?_ (.cons ?_ .nil)), ?_⟩
    · rw [continuationRanges_eq, byte (by omega), if_neg (by omega), if_neg (by omega),
        if_neg (by omega), if_neg (by omega), if_pos (by omega)]
    · rw [within_secondRange, byte (by omega), byte (by omega)]
      omega
    · rw [within_tailRange, byte (by omega)]
      omega
    · rw [within_tailRange, byte (by omega)]
      omega
    · rw [leadValue_eq, extend, List.foldl_cons, List.foldl_cons, List.foldl_cons, List.foldl_nil,
        byte (by omega), byte (by omega), byte (by omega), byte (by omega), if_neg (by omega),
        if_neg (by omega), if_neg (by omega)]
      omega

end Leads

section Decoding

variable {bytes : List UInt8} {characters : List Char}

/-- Reading starts over after every character. -/
theorem decodeUtf8From_of_taken {index code : Nat} {lead : UInt8} {rest : List UInt8}
    {ranges : List (UInt8 × UInt8)} (leads : continuationRanges lead = some ranges)
    (taken : takeContinuations index 1 (leadValue lead) ranges bytes = .ok (code, rest)) :
    decodeUtf8From index (lead :: bytes) =
      (decodeUtf8From (index + 1 + ranges.length) rest).map (Char.ofNat code :: ·) := by
  rw [decodeUtf8From, leads]
  dsimp only
  split
  · next failed => cases failed.symm.trans taken
  · next other =>
    cases taken.symm.trans other
    cases decodeUtf8From (index + 1 + ranges.length) rest <;> rfl

theorem decodeUtf8From_encoded (index : Nat) :
    decodeUtf8From index (characters.flatMap String.utf8EncodeChar) = .ok characters := by
  induction characters generalizing index with
  | nil => rw [List.flatMap_nil, decodeUtf8From]
  | cons character characters ih =>
    obtain ⟨lead, used, ranges, encoded, leads, fits, same⟩ := exists_fits character
    rw [List.flatMap_cons, encoded, List.cons_append,
      decodeUtf8From_of_taken leads (takeContinuations_append fits), ih, same, Char.ofNat_toNat]
    rfl

theorem encoded_of_decodeUtf8From {index : Nat}
    (decoded : decodeUtf8From index bytes = .ok characters) :
    bytes = characters.flatMap String.utf8EncodeChar := by
  -- A step takes all bytes of a character, so the induction is on how many bytes are left.
  induction length : bytes.length using Nat.strongRecOn
    generalizing index bytes characters with
  | _ length ih =>
    subst length
    cases bytes with
    | nil =>
      rw [decodeUtf8From] at decoded
      cases decoded
      rfl
    | cons lead bytes =>
      rw [decodeUtf8From] at decoded
      split at decoded
      · cases decoded
      next ranges leads =>
      split at decoded
      · cases decoded
      next code rest taken =>
      split at decoded
      · cases decoded
      next later decodedLater =>
      cases decoded
      have shorter := takeContinuations_length taken
      obtain ⟨used, rfl, fits, rfl⟩ := exists_fits_of_takeContinuations taken
      rw [List.flatMap_cons, utf8EncodeChar_of_fits leads fits, List.cons_append,
        ← ih rest.length (Nat.lt_succ_of_le shorter) decodedLater rfl]

/-- Bytes are read as the characters that they encode, and no other bytes can be read. -/
theorem decodeUtf8_eq_ok_iff :
    decodeUtf8 bytes = .ok characters ↔ bytes = characters.flatMap String.utf8EncodeChar := by
  constructor
  · exact encoded_of_decodeUtf8From
  · rintro rfl
    exact decodeUtf8From_encoded 0

/-- Text is read back from its bytes. -/
theorem decodeUtf8_utf8Bytes (text : String) : decodeUtf8 (utf8Bytes text) = .ok text.toList :=
  decodeUtf8_eq_ok_iff.mpr rfl

end Decoding

section Bytes

variable {byte : UInt8} {character : Char} {text : String}

theorem utf8Bytes_append (first second : String) :
    utf8Bytes (first ++ second) = utf8Bytes first ++ utf8Bytes second := by
  rw [utf8Bytes, String.toList_append, List.flatMap_append, utf8Bytes, utf8Bytes]

/-- A byte below 128 is only written for the character with its number. -/
theorem toNat_of_mem_utf8EncodeChar (member : byte ∈ String.utf8EncodeChar character)
    (low : byte.toNat < 128) : character.toNat = byte.toNat := by
  change character.val.toNat = byte.toNat
  unfold String.utf8EncodeChar at member
  dsimp only at member
  split_ifs at member
  all_goals
    simp only [List.mem_cons, List.not_mem_nil, or_false, ← UInt8.toNat_inj,
      UInt8.toNat_ofNat'] at member
    omega

/-- A character below 128 that is not in a text leaves no byte. -/
theorem notMem_utf8Bytes (low : byte.toNat < 128) (absent : Char.ofNat byte.toNat ∉ text.toList) :
    byte ∉ utf8Bytes text := by
  intro member
  obtain ⟨character, inside, written⟩ := List.mem_flatMap.mp member
  rw [← toNat_of_mem_utf8EncodeChar written low, Char.ofNat_toNat] at absent
  exact absent inside

end Bytes

end Issuance.Text
