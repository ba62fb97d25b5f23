import Issuance.Proofs.Text.Letters
import Issuance.Time.DurationText

namespace Issuance

namespace Text

theorem isDecimalDigit_of_isAsciiDigit {character : Char} (plain : isAsciiDigit character = true) :
    isDecimalDigit character = true := by
  rw [isAsciiDigit, Bool.and_eq_true] at plain
  exact List.any_eq_true.mpr ⟨(0x30, 0x39), List.mem_cons_self, by simpa using plain⟩

end Text

namespace DurationText

/-- The letters of a fraction with its point. -/
def fractionLetters : Option (List Char) → List Char
  | none => []
  | some digits => '.' :: digits

/-- The number of a part without its unit. -/
def Part.numeral (part : Part) : List Char := part.whole ++ fractionLetters part.fraction

/-- The number of a part has digits of some kind, on both sides of a point if there is one. -/
structure Part.IsWritten (isDigit : Char → Bool) (part : Part) : Prop where
  whole : part.whole ≠ []
  wholeDigits : ∀ digit ∈ part.whole, isDigit digit = true
  fraction : ∀ digits ∈ part.fraction, digits ≠ []
  fractionDigits : ∀ digits ∈ part.fraction, ∀ digit ∈ digits, isDigit digit = true

variable {text rest : List Char} {part : Part} {parts : List Part} {scale : Scale}
  {fraction : Option (List Char)} {isDigit : Char → Bool}

theorem Part.letters_eq (part : Part) : part.letters = part.numeral ++ part.scale.letters := by
  rw [letters, numeral]
  cases part.fraction <;> rfl

theorem Part.IsWritten.mono (written : part.IsWritten Text.isAsciiDigit) :
    part.IsWritten Text.isDecimalDigit where
  whole := written.whole
  wholeDigits digit member := Text.isDecimalDigit_of_isAsciiDigit (written.wholeDigits digit member)
  fraction := written.fraction
  fractionDigits digits present digit member :=
    Text.isDecimalDigit_of_isAsciiDigit (written.fractionDigits digits present digit member)

/-- Whether a part is well written can be told from its digits. -/
theorem Part.isWritten_iff : part.IsWritten isDigit ↔
    (!part.whole.isEmpty && part.whole.all isDigit &&
      part.fraction.all fun digits => !digits.isEmpty && digits.all isDigit) = true := by
  simp only [Bool.and_eq_true, List.all_eq_true, Option.all_eq_true, Bool.not_eq_true',
    List.isEmpty_eq_false_iff]
  constructor
  · intro written
    exact ⟨⟨written.whole, written.wholeDigits⟩, fun digits present =>
      ⟨written.fraction digits present, written.fractionDigits digits present⟩⟩
  · rintro ⟨⟨whole, wholeDigits⟩, fraction⟩
    exact ⟨whole, wholeDigits, fun digits present => (fraction digits present).1,
      fun digits present => (fraction digits present).2⟩

instance (isDigit : Char → Bool) (part : Part) : Decidable (part.IsWritten isDigit) :=
  decidable_of_iff' _ Part.isWritten_iff

/-- No unit goes on into the text: it does not begin with the second letter of milliseconds. -/
def IsBoundary (rest : List Char) : Prop := ∀ letter ∈ rest.head?, letter ≠ 's'

section Reading

/-- The letters of a unit are those that it was read from. -/
theorem eq_of_readScale (found : readScale text = some (scale, rest)) :
    text = scale.letters ++ rest := by
  unfold readScale at found
  split at found <;> cases found <;> rfl

/-- A unit is read back when the letter after it does not belong to it. -/
theorem readScale_letters (boundary : IsBoundary rest) :
    readScale (scale.letters ++ rest) = some (scale, rest) := by
  cases scale with
  | hours => rfl
  | seconds => rfl
  | milliseconds => rfl
  | minutes =>
    cases rest with
    | nil => rfl
    | cons letter rest =>
      have other : letter ≠ 's' := boundary letter rfl
      simp [Scale.letters, readScale, other]

/-- No unit begins with a digit or a point. -/
theorem readScale_eq_none {letter : Char}
    (numeral : Text.isDecimalDigit letter = true ∨ letter = '.') :
    readScale (letter :: rest) = none := by
  have apart : letter ≠ 'h' ∧ letter ≠ 'm' ∧ letter ≠ 's' := by
    refine ⟨?_, ?_, ?_⟩ <;> rintro rfl <;> revert numeral <;> decide
  unfold readScale
  split <;> simp_all

/-- A unit never begins like a number. -/
theorem Scale.head?_letters (scale : Scale) (rest : List Char) :
    ∀ letter ∈ (scale.letters ++ rest).head?,
      Text.isDecimalDigit letter = false ∧ letter ≠ '.' := by
  rintro letter first
  cases scale <;> cases first <;> exact ⟨by decide, by decide⟩

/-- What is read as a fraction is cut off from the text. -/
theorem eq_of_readFraction (text : List Char) :
    text = fractionLetters (readFraction text).1 ++ (readFraction text).2 := by
  fun_cases readFraction text with
  | case1 => rfl
  | case2 rest =>
    change '.' :: rest = '.' :: (rest.takeWhile Text.isDecimalDigit ++ _)
    rw [List.takeWhile_append_dropWhile]
  | case3 => rfl

theorem digits_of_readFraction {digits : List Char} (found : (readFraction text).1 = some digits) :
    digits ≠ [] ∧ ∀ digit ∈ digits, Text.isDecimalDigit digit = true := by
  unfold readFraction at found
  split at found
  · next rest =>
    split at found
    · cases found
    · next filled =>
      obtain rfl := Option.some.inj found
      exact ⟨filled, fun digit member => List.mem_takeWhile_imp member⟩
  · cases found

/-- A fraction is read back when a unit follows it. -/
theorem readFraction_letters (filled : ∀ digits ∈ fraction, digits ≠ [])
    (plain : ∀ digits ∈ fraction, ∀ digit ∈ digits, Text.isDecimalDigit digit = true)
    (ends : ∀ letter ∈ rest.head?, Text.isDecimalDigit letter = false ∧ letter ≠ '.') :
    readFraction (fractionLetters fraction ++ rest) = (fraction, rest) := by
  cases fraction with
  | none =>
    cases rest with
    | nil => rfl
    | cons letter rest =>
      have other : letter ≠ '.' := (ends letter rfl).2
      simp [fractionLetters, readFraction, other]
  | some digits =>
    obtain ⟨taken, dropped⟩ := Text.span_run (plain digits rfl) fun letter first =>
      (ends letter first).1
    change readFraction ('.' :: (digits ++ rest)) = _
    cases digits with
    | nil => exact absurd rfl (filled [] rfl)
    | cons digit digits => simp only [readFraction, taken, dropped]

/-- What is left of a text after the number at its front. -/
def afterNumber (text : List Char) : List Char :=
  (readFraction (text.dropWhile Text.isDecimalDigit)).2

/-- The number at the front of a text, taken in a unit. -/
def partFrom (text : List Char) (scale : Scale) : Part :=
  ⟨text.takeWhile Text.isDecimalDigit, (readFraction (text.dropWhile Text.isDecimalDigit)).1, scale⟩

theorem readPart_eq (text : List Char) : readPart text =
    if text.takeWhile Text.isDecimalDigit = [] then none
    else (readScale (afterNumber text)).map fun found => (partFrom text found.1, found.2) := by
  unfold readPart
  split
  · next empty => rw [if_pos empty]
  · next filled =>
    rw [if_neg filled, afterNumber]
    dsimp only
    cases readScale _ <;> rfl

/-- A part is cut off from the text at the end of its number and at the end of its unit. -/
theorem cut_of_readPart (found : readPart text = some (part, rest)) :
    part.numeral ++ afterNumber text = text ∧ afterNumber text = part.scale.letters ++ rest := by
  rw [readPart_eq] at found
  split at found
  · cases found
  · obtain ⟨⟨scale, rest⟩, scaled, same⟩ := Option.map_eq_some_iff.mp found
    cases same
    refine ⟨?_, eq_of_readScale scaled⟩
    rw [Part.numeral, List.append_assoc, partFrom, afterNumber, ← eq_of_readFraction,
      List.takeWhile_append_dropWhile]

/-- What is read as a part has digits on both sides of its point. -/
theorem isWritten_of_readPart (found : readPart text = some (part, rest)) :
    part.IsWritten Text.isDecimalDigit := by
  rw [readPart_eq] at found
  split at found
  · cases found
  · next filled =>
    obtain ⟨_, _, same⟩ := Option.map_eq_some_iff.mp found
    cases same
    exact ⟨filled, fun digit member => List.mem_takeWhile_imp member,
      fun digits present => (digits_of_readFraction present).1,
      fun digits present => (digits_of_readFraction present).2⟩

/-- The letters of a part are those that it was read from. -/
theorem eq_of_readPart (found : readPart text = some (part, rest)) :
    text = part.letters ++ rest := by
  obtain ⟨number, unit⟩ := cut_of_readPart found
  rw [Part.letters_eq, List.append_assoc, ← unit, number]

/-- A part is read back in front of another one. -/
theorem readPart_letters (written : part.IsWritten Text.isDecimalDigit)
    (boundary : IsBoundary rest) : readPart (part.letters ++ rest) = some (part, rest) := by
  have unit := part.scale.head?_letters rest
  have fraction := readFraction_letters written.fraction written.fractionDigits unit
  have ends : ∀ letter ∈ (fractionLetters part.fraction ++ (part.scale.letters ++ rest)).head?,
      Text.isDecimalDigit letter = false := by
    intro letter first
    cases present : part.fraction with
    | none =>
      rw [present] at first
      exact (unit letter first).1
    | some digits =>
      rw [present] at first
      cases first
      decide
  obtain ⟨taken, dropped⟩ := Text.span_run written.wholeDigits ends
  rw [Part.letters_eq, Part.numeral, List.append_assoc, List.append_assoc]
  rw [readPart_eq, afterNumber, taken, dropped, fraction, if_neg written.whole,
    readScale_letters boundary, Option.map_some, partFrom, taken, dropped, fraction]

/-- Every part begins with a digit. -/
theorem Part.IsWritten.letters_cons (written : part.IsWritten Text.isDecimalDigit) :
    ∃ digit letters, part.letters = digit :: letters ∧ Text.isDecimalDigit digit = true := by
  cases digits : part.whole with
  | nil => exact absurd digits written.whole
  | cons digit whole =>
    refine ⟨digit, whole ++ fractionLetters part.fraction ++ part.scale.letters, ?_, ?_⟩
    · rw [letters_eq, numeral, digits]
      rfl
    · exact written.wholeDigits digit (digits ▸ List.mem_cons_self)

/-- No part begins in the midst of a unit. -/
theorem isBoundary_flatMap (written : ∀ part ∈ parts, part.IsWritten Text.isDecimalDigit) :
    IsBoundary (parts.flatMap Part.letters) := by
  cases parts with
  | nil => exact nofun
  | cons part parts =>
    obtain ⟨digit, letters, same, plain⟩ := (written part List.mem_cons_self).letters_cons
    rintro letter first rfl
    rw [List.flatMap_cons, same] at first
    cases first
    revert plain
    decide

end Reading

/-- A well-formed text is a sequence of well-written parts. -/
theorem isWellFormed_iff : isWellFormed text = true ↔ ∃ parts, parts ≠ [] ∧
    (∀ part ∈ parts, part.IsWritten Text.isDecimalDigit) ∧ text = parts.flatMap Part.letters := by
  constructor
  · intro formed
    fun_induction isWellFormed text with
    | case1 => cases formed
    | case2 text part found =>
      refine ⟨[part], List.cons_ne_nil _ _, ?_, by simpa using eq_of_readPart found⟩
      simpa using isWritten_of_readPart found
    | case3 text part rest _ found ih =>
      obtain ⟨parts, _, others, rfl⟩ := ih formed
      refine ⟨part :: parts, List.cons_ne_nil _ _, ?_, by simpa using eq_of_readPart found⟩
      simpa using ⟨isWritten_of_readPart found, others⟩
  · rintro ⟨parts, filled, written, rfl⟩
    induction parts with
    | nil => exact absurd rfl filled
    | cons part parts ih =>
      have others := fun other member => written other (List.mem_cons_of_mem part member)
      rw [List.flatMap_cons, isWellFormed.eq_def,
        readPart_letters (written part List.mem_cons_self) (isBoundary_flatMap others)]
      cases parts with
      | nil => rfl
      | cons second parts =>
        obtain ⟨digit, letters, same, _⟩ := (others second List.mem_cons_self).letters_cons
        have formed := ih (List.cons_ne_nil _ _) others
        rw [List.flatMap_cons, same, List.cons_append] at formed ⊢
        exact formed

/-- A sequence of well-written parts is read back as it is. -/
theorem scanParts_flatMap (written : ∀ part ∈ parts, part.IsWritten Text.isDecimalDigit) :
    scanParts (parts.flatMap Part.letters) = parts := by
  induction parts with
  | nil => simp [scanParts]
  | cons part parts ih =>
    have others := fun other member => written other (List.mem_cons_of_mem part member)
    have found := readPart_letters (written part List.mem_cons_self) (isBoundary_flatMap others)
    obtain ⟨digit, letters, same, _⟩ := (written part List.mem_cons_self).letters_cons
    rw [same, List.cons_append] at found
    rw [List.flatMap_cons, same, List.cons_append, scanParts.eq_def]
    dsimp only
    rw [found]
    exact congrArg (part :: ·) (ih others)

/-- A part is worth some seconds when its digits are plain. -/
theorem isSome_seconds?_iff (written : part.IsWritten Text.isDecimalDigit) :
    part.seconds?.isSome = true ↔ part.IsWritten Text.isAsciiDigit := by
  have plain : part.seconds?.isSome = true ↔
      ∀ digit ∈ part.whole ++ part.fraction.getD [], Text.isAsciiDigit digit = true := by
    rw [← List.all_eq_true, Part.seconds?, Option.isSome_map, Part.number?]
    split <;> simp_all
  rw [plain]
  constructor
  · intro digits
    refine ⟨written.whole, fun digit member => digits digit (List.mem_append_left _ member),
      written.fraction, fun fraction present digit member => digits digit ?_⟩
    rw [Option.mem_def.mp present]
    exact List.mem_append_right _ member
  · intro counted digit member
    rcases List.mem_append.mp member with whole | decimal
    · exact counted.wholeDigits digit whole
    · cases present : part.fraction with
      | none =>
        rw [present] at decimal
        cases decimal
      | some digits =>
        rw [present] at decimal
        exact counted.fractionDigits digits present digit decimal

/-- Parts have a sum when each of them is worth some seconds. -/
theorem isSome_sumFrom_iff {total : Binary64} :
    (sumFrom total parts).isSome = true ↔ ∀ part ∈ parts, part.seconds?.isSome = true := by
  induction parts generalizing total with
  | nil => simp [sumFrom]
  | cons part parts ih =>
    rw [sumFrom, List.forall_mem_cons]
    cases part.seconds? with
    | none => simp
    | some seconds => simp [ih]

/-- The sum does not fit a span. -/
def ExceedsSpan (total : Binary64) : Prop :=
  ∀ nanoseconds ∈ total.billionths, UInt64.size * nanosPerSecond ≤ nanoseconds

/-- A sum that is neither zero nor too great is rounded to a span. -/
theorem spanOf_cases (source : String) (total : Binary64) :
    (∃ span, spanOf source total = .ok span ∧ total ≠ .zero ∧
      total.billionths = some span.nanoseconds) ∨
    (spanOf source total = .error (.notPositive source) ∧ total = .zero) ∨
    (spanOf source total = .error (.outOfRange source) ∧ ExceedsSpan total) := by
  by_cases zero : total = .zero
  · exact .inr (.inl ⟨if_pos zero, zero⟩)
  · rw [spanOf, if_neg zero]
    cases rounded : total.billionths with
    | none => exact .inr (.inr ⟨rfl, by simp [ExceedsSpan, rounded]⟩)
    | some nanoseconds =>
      by_cases fits : nanoseconds < UInt64.size * nanosPerSecond
      · exact .inl ⟨⟨nanoseconds, fits⟩, by simp [Span.ofNanoseconds?, fits], zero, rfl⟩
      · have exceeds : UInt64.size * nanosPerSecond ≤ nanoseconds := Nat.le_of_not_lt fits
        exact .inr (.inr ⟨by simp [Span.ofNanoseconds?, fits], by simpa [ExceedsSpan, rounded]⟩)

/-- A text of parts is worth their sum. -/
theorem parse_of_parts {source : String} (filled : parts ≠ [])
    (written : ∀ part ∈ parts, part.IsWritten Text.isDecimalDigit)
    (same : (Text.trim source).toList = parts.flatMap Part.letters) :
    parse source = (sumFrom .zero parts).elim (.error (.number (Text.trim source)))
      (spanOf (Text.trim source)) := by
  have formed := isWellFormed_iff.mpr ⟨parts, filled, written, same⟩
  have present : (Text.trim source).isEmpty = false := by
    rw [Bool.eq_false_iff]
    intro empty
    rw [String.isEmpty_iff.mp empty] at formed
    simp [isWellFormed, readPart] at formed
  rw [parse, present, if_neg Bool.false_ne_true, formed, if_neg (by decide), same,
    scanParts_flatMap written]
  cases sumFrom .zero parts <;> rfl

/-- A duration comes from a text of parts with plain digits and is their sum. -/
theorem exists_parts_of_parse {source : String} {span : Span} (parsed : parse source = .ok span) :
    ∃ parts total, parts ≠ [] ∧ (∀ part ∈ parts, part.IsWritten Text.isAsciiDigit) ∧
      (Text.trim source).toList = parts.flatMap Part.letters ∧
      sumFrom .zero parts = some total ∧ spanOf (Text.trim source) total = .ok span := by
  by_cases formed : isWellFormed (Text.trim source).toList = true
  · obtain ⟨parts, filled, written, same⟩ := isWellFormed_iff.mp formed
    rw [parse_of_parts filled written same] at parsed
    cases summed : sumFrom .zero parts with
    | none =>
      rw [summed] at parsed
      cases parsed
    | some total =>
      rw [summed] at parsed
      have counted := isSome_sumFrom_iff.mp (Option.isSome_of_eq_some summed)
      exact ⟨parts, total, filled, fun part member =>
        (isSome_seconds?_iff (written part member)).mp (counted part member), same, summed, parsed⟩
  · rw [parse, Bool.eq_false_iff.mpr formed] at parsed
    split at parsed <;> cases parsed

end DurationText

end Issuance
