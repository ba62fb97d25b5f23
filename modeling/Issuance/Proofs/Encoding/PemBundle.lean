import Issuance.Proofs.Encoding.Pem

namespace Issuance.Pem

section Search

variable {first byte : UInt8} {more marker pending seen before input rest : List UInt8}

/-- A marker at the front is found, and what was seen before it is left. -/
theorem searchFrom_append : searchFrom marker pending seen (pending ++ rest) =
    some (((pending.reverse ++ seen).drop marker.length).reverse, rest) := by
  induction pending generalizing seen with
  | nil => rw [List.nil_append, searchFrom, List.reverse_nil, List.nil_append]
  | cons byte pending ih =>
    rw [List.cons_append, searchFrom, if_pos rfl, ih, List.reverse_cons, List.append_assoc,
      List.singleton_append]

/-- Bytes that no marker starts with are passed over. -/
theorem searchFrom_skip (absent : first ∉ before) :
    searchFrom (first :: more) (first :: more) seen (before ++ input) =
      searchFrom (first :: more) (first :: more) (before.reverse ++ seen) input := by
  induction before generalizing seen with
  | nil => rfl
  | cons byte before ih =>
    rw [List.mem_cons, not_or] at absent
    rw [List.cons_append, searchFrom, if_neg (Ne.symm absent.1), ih absent.2, List.reverse_cons,
      List.append_assoc, List.singleton_append]

theorem splitAt?_append (absent : first ∉ before) :
    splitAt? (first :: more) (before ++ (first :: more ++ rest)) = some (before, rest) := by
  have dropped : ((first :: more).reverse ++ before.reverse).drop (first :: more).length =
      before.reverse := List.drop_left' (List.length_reverse ..)
  rw [splitAt?, searchFrom_skip absent, searchFrom_append, List.append_nil, dropped,
    List.reverse_reverse]

theorem splitAt?_of_absent (absent : first ∉ input) : splitAt? (first :: more) input = none := by
  have skipped : searchFrom (first :: more) (first :: more) [] (input ++ []) =
      searchFrom (first :: more) (first :: more) (input.reverse ++ []) [] :=
    searchFrom_skip absent
  rw [List.append_nil] at skipped
  rw [splitAt?, skipped, searchFrom]

end Search

section Lines

variable {bytes : List UInt8}

theorem wrapLines_cons (byte : UInt8) (bytes : List UInt8) : wrapLines (byte :: bytes) =
    (byte :: bytes.take 63) ++ 10 :: wrapLines (bytes.drop 63) := by
  rw [wrapLines, List.append_assoc, List.singleton_append]

/-- Nothing but line ends is added. -/
theorem filter_wrapLines {keeps : UInt8 → Bool} (ends : keeps 10 = false) :
    (wrapLines bytes).filter keeps = bytes.filter keeps := by
  induction bytes using wrapLines.induct with
  | case1 => rw [wrapLines]
  | case2 byte bytes ih =>
    have dropped : (10 :: wrapLines (bytes.drop 63)).filter keeps =
        (bytes.drop 63).filter keeps := by
      rw [List.filter_cons_of_neg (by simp [ends]), ih]
    rw [wrapLines_cons, List.filter_append, dropped, ← List.filter_append, List.cons_append,
      List.take_append_drop]

theorem mem_wrapLines {byte : UInt8} (member : byte ∈ wrapLines bytes) :
    byte = 10 ∨ byte ∈ bytes := by
  by_cases ends : byte = 10
  · exact .inl ends
  · have kept : byte ∈ (wrapLines bytes).filter (· ≠ 10) := by simp [member, ends]
    rw [filter_wrapLines (by decide)] at kept
    exact .inr (List.mem_of_mem_filter kept)

theorem head?_wrapLines : (wrapLines bytes).head? = bytes.head? := by
  cases bytes with
  | nil => rw [wrapLines]
  | cons byte bytes => rw [wrapLines_cons]; rfl

/-- There is no empty line. -/
theorem searchFrom_wrapLines (plain : 10 ∉ bytes) (seen : List UInt8) :
    searchFrom [10, 10] [10, 10] seen (wrapLines bytes) = none := by
  induction bytes using wrapLines.induct generalizing seen with
  | case1 => rw [wrapLines, searchFrom]
  | case2 byte bytes ih =>
    have line : 10 ∉ byte :: bytes.take 63 :=
      fun member => plain (List.cons_subset_cons byte (List.take_subset 63 bytes) member)
    have later : 10 ∉ bytes.drop 63 :=
      fun member => plain (List.mem_cons_of_mem byte (List.mem_of_mem_drop member))
    rw [wrapLines_cons, searchFrom_skip line, searchFrom, if_pos rfl]
    -- What follows a line end is the next line, which starts with a letter, or nothing.
    have next := ih later (10 :: ((byte :: bytes.take 63).reverse ++ seen))
    cases written : wrapLines (bytes.drop 63) with
    | nil => rw [searchFrom]
    | cons start rest =>
      rw [written] at next
      have differs : start ≠ 10 := by
        rintro rfl
        have first : (wrapLines (bytes.drop 63)).head? = (bytes.drop 63).head? := head?_wrapLines
        rw [written] at first
        exact later (List.mem_of_head? first.symm)
      rw [searchFrom, if_neg differs] at next ⊢
      exact next

/-- Wrapped lines have no headers in front. -/
theorem splitHeaders_wrapLines (plain : 10 ∉ bytes) (returns : 13 ∉ bytes) :
    splitHeaders (wrapLines bytes) = ([], wrapLines bytes) := by
  have absent : 13 ∉ wrapLines bytes := fun member =>
    (mem_wrapLines member).elim (by decide) returns
  rw [splitHeaders, splitAt?, searchFrom_wrapLines plain, splitAt?_of_absent absent]
  rfl

end Lines

theorem skipSpace_lineEnd (input : List UInt8) : skipSpace (10 :: input) = skipSpace input := rfl

/-- Nothing is passed over before a byte that is no space. -/
theorem skipSpace_cons {byte : UInt8} (visible : Text.isBlank (Char.ofNat byte.toNat) = false)
    (input : List UInt8) : skipSpace (byte :: input) = byte :: input := by
  have space : (byte == 32 || byte == 9 || byte == 13 || byte == 10) = false := by
    simp only [Bool.or_eq_false_iff, beq_eq_false_iff_ne]
    refine ⟨⟨⟨?_, ?_⟩, ?_⟩, ?_⟩ <;> rintro rfl <;> exact absurd visible (by decide)
  rw [skipSpace, List.dropWhile_cons_of_neg (by simp [space])]

theorem wrapLines_encode_ascii (contents : List UInt8) :
    ∀ byte ∈ wrapLines (Base64.encode contents), byte.toNat < 128 := by
  intro byte member
  obtain rfl | written := mem_wrapLines member
  · decide
  · exact Base64.encode_ascii contents byte written

/-- The contents of a block survive being written in lines. -/
theorem decodeData_wrapLines (contents : List UInt8) :
    decodeData ((wrapLines (Base64.encode contents)).map fun byte => Char.ofNat byte.toNat) =
      .ok contents := by
  have letters := Base64.encode_letters contents
  have visible : (wrapLines (Base64.encode contents)).filter
      (fun byte => !Text.isBlank (Char.ofNat byte.toNat)) = Base64.encode contents := by
    rw [filter_wrapLines (by decide), List.filter_eq_self]
    intro byte member
    rw [(letters byte member).plain.2.2, Bool.not_false]
  have written := Text.utf8Bytes_ascii (Base64.encode_ascii contents)
  rw [Text.utf8Bytes, String.toList_ofList] at written
  rw [decodeData, List.filter_map, Function.comp_def, visible, written, Base64.decode_encode]

namespace Block

variable {block : Block} {blocks : List Block} {rest : List UInt8}

/-- The block has no headers, and its label does not run into the dashes around it. -/
structure IsPlain (block : Block) : Prop where
  headers : block.headers = []
  filled : block.label ≠ ""
  dashless : '-' ∉ block.label.toList

def frame (block : Block) : Frame :=
  ⟨Text.utf8Bytes block.label, [], wrapLines (Base64.encode block.contents),
    Text.utf8Bytes block.label⟩

/-- A plain block is all that is read from its frame. -/
theorem IsPlain.block_frame (plain : block.IsPlain) : block.frame.block = .ok block := by
  have label : decodePart (Text.utf8Bytes block.label) = .ok block.label.toList := by
    rw [decodePart, Text.decodeUtf8_utf8Bytes]
  have filled : block.label.toList.isEmpty = false := by
    rw [List.isEmpty_eq_false_iff, ne_eq, String.toList_eq_nil_iff]
    exact plain.filled
  have ascii := wrapLines_encode_ascii block.contents
  have headers : decodePart [] = .ok [] := decodePart_ascii (List.forall_mem_nil _)
  rw [Frame.block, frame, label, decodePart_ascii ascii, headers]
  simp only [bind, Except.bind, filled, decodeData_wrapLines, splitLines, checkHeaders,
    Bool.false_eq_true, ↓reduceIte, ne_eq, not_true_eq_false, String.ofList_toList]
  rw [← plain.headers]
  rfl

/-- A plain block is found in front of what follows it. -/
theorem IsPlain.nextFrame_encode (plain : block.IsPlain) (visible : skipSpace rest = rest) :
    nextFrame (block.encode ++ rest) = some (block.frame, rest) := by
  have letters := Base64.encode_letters block.contents
  have label : 45 ∉ Text.utf8Bytes block.label := Text.notMem_utf8Bytes (by decide) plain.dashless
  have data : 45 ∉ wrapLines (Base64.encode block.contents) := by
    intro member
    obtain same | written := mem_wrapLines member
    · cases same
    · exact (letters _ written).plain.2.1 rfl
  have form : block.encode ++ rest = beginMark ++ (Text.utf8Bytes block.label ++ (dashes ++ (10 ::
      (wrapLines (Base64.encode block.contents) ++ (endMark ++ (Text.utf8Bytes block.label ++
        (dashes ++ 10 :: rest))))))) := by
    simp [encode, headerBytes, plain.headers]
  have first (input : List UInt8) : splitAt? beginMark (beginMark ++ input) = some ([], input) :=
    splitAt?_append (List.not_mem_nil (a := 45))
  have second (input : List UInt8) : splitAt? dashes (Text.utf8Bytes block.label ++
      (dashes ++ input)) = some (Text.utf8Bytes block.label, input) := splitAt?_append label
  have third (input : List UInt8) : splitAt? endMark (wrapLines (Base64.encode block.contents) ++
      (endMark ++ input)) = some (wrapLines (Base64.encode block.contents), input) :=
    splitAt?_append data
  have skipped (input : List UInt8) : skipSpace (10 :: (wrapLines (Base64.encode block.contents) ++
      (endMark ++ input))) = wrapLines (Base64.encode block.contents) ++ (endMark ++ input) := by
    rw [skipSpace_lineEnd]
    cases written : Base64.encode block.contents with
    | nil => rw [wrapLines]; rfl
    | cons byte bytes =>
      rw [written] at letters
      rw [wrapLines_cons, List.cons_append, List.cons_append]
      exact skipSpace_cons (letters byte List.mem_cons_self).plain.2.2 _
  have headers : splitHeaders (wrapLines (Base64.encode block.contents)) =
      ([], wrapLines (Base64.encode block.contents)) :=
    splitHeaders_wrapLines
      (fun member => absurd (letters 10 member).plain.2.2 (by decide))
      (fun member => absurd (letters 13 member).plain.2.2 (by decide))
  rw [form, nextFrame, first]
  simp only [second, skipped, third, headers, skipSpace_lineEnd, visible]
  rfl

/-- A plain block is read back. -/
theorem IsPlain.decode_encode (plain : block.IsPlain) : decode block.encode = .ok block := by
  have found : nextFrame (block.encode ++ []) = some (block.frame, []) :=
    plain.nextFrame_encode rfl
  rw [List.append_nil] at found
  rw [decode, found]
  exact plain.block_frame

/-- A block without headers is written as text. -/
theorem exists_text (headers : block.headers = []) :
    ∃ text : String, Text.utf8Bytes text = block.encode := by
  have ascii := wrapLines_encode_ascii block.contents
  refine ⟨"-----BEGIN " ++ block.label ++ "-----\n" ++ String.ofList
    ((wrapLines (Base64.encode block.contents)).map fun byte => Char.ofNat byte.toNat) ++
    "-----END " ++ block.label ++ "-----\n", ?_⟩
  have opening : Text.utf8Bytes "-----BEGIN " = beginMark := by decide
  have closing : Text.utf8Bytes "-----END " = endMark := by decide
  have ending : Text.utf8Bytes "-----\n" = dashes ++ [10] := by decide
  simp [Text.utf8Bytes_append, Text.utf8Bytes_ascii ascii, opening, closing, ending, encode,
    headerBytes, headers]

end Block

section Bundle

variable {blocks : List Block}

/-- The frames of a bundle are those of its blocks. -/
theorem frames_bundle (plain : ∀ block ∈ blocks, block.IsPlain) :
    frames (blocks.flatMap Block.encode) = blocks.map Block.frame := by
  induction blocks with
  | nil => exact frames_of_none rfl
  | cons block blocks ih =>
    obtain ⟨first, later⟩ := List.forall_mem_cons.mp plain
    have visible : skipSpace (blocks.flatMap Block.encode) = blocks.flatMap Block.encode := by
      cases blocks with
      | nil => rfl
      | cons next blocks =>
        have dash : Text.isBlank (Char.ofNat (45 : UInt8).toNat) = false := by decide
        exact skipSpace_cons dash _
    rw [List.flatMap_cons, frames_of_some (first.nextFrame_encode visible), ih later, List.map_cons]

/-- Plain blocks are read back from their bundle. -/
theorem decodeAll_bundle (plain : ∀ block ∈ blocks, block.IsPlain) :
    decodeAll (blocks.flatMap Block.encode) = .ok blocks := by
  rw [decodeAll, frames_bundle plain]
  induction blocks with
  | nil => rfl
  | cons block blocks ih =>
    obtain ⟨first, later⟩ := List.forall_mem_cons.mp plain
    rw [List.map_cons, List.mapM_cons, first.block_frame, ih later]
    rfl

/-- A bundle of blocks without headers is written as text. -/
theorem exists_bundle_text (headers : ∀ block ∈ blocks, block.headers = []) :
    ∃ text : String, Text.utf8Bytes text = blocks.flatMap Block.encode := by
  induction blocks with
  | nil => exact ⟨"", rfl⟩
  | cons block blocks ih =>
    obtain ⟨first, later⟩ := List.forall_mem_cons.mp headers
    obtain ⟨text, written⟩ := block.exists_text first
    obtain ⟨more, writtenMore⟩ := ih later
    exact ⟨text ++ more, by rw [Text.utf8Bytes_append, written, writtenMore, List.flatMap_cons]⟩

end Bundle

end Issuance.Pem
