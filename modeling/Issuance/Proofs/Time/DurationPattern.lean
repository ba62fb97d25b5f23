import Issuance.Proofs.Text.Pattern
import Issuance.Proofs.Time.DurationParts

/- The two patterns of duration texts: a whole text is checked against one of them, and its parts
are found with the other one. They agree on where each part ends. -/
namespace Issuance.DurationText

open Text (Pattern Reading)

/-- Digits of any script, `\d+`. -/
def digitsPattern : Pattern := .repeated (.letter Text.isDecimalDigit)

/-- A fraction with its point, `\.\d+`. -/
def fractionPattern : Pattern := .sequence (.letter (· = '.')) digitsPattern

/-- The number of a part, `\d+(\.\d+)?`. -/
def numberPattern : Pattern := .sequence digitsPattern (.optional fractionPattern)

/-- The unit of a part, `h|ms|m|s`. -/
def unitPattern : Pattern :=
  .choice (.letter (· = 'h'))
    (.choice (.sequence (.letter (· = 'm')) (.letter (· = 's')))
      (.choice (.letter (· = 'm')) (.letter (· = 's'))))

/-- A whole text, `^(\d+(\.\d+)?(h|ms|m|s))+$`, where the anchors are those of `Pattern.Fits`. -/
def fullPattern : Pattern := .repeated (.sequence numberPattern unitPattern)

/-- One part, `(?P<number>\d+(\.\d+)?)(?P<unit>h|ms|m|s)`. -/
def partPattern : Pattern :=
  .sequence (.named "number" numberPattern) (.named "unit" unitPattern)

/-- What the named parts of the pattern are read from. -/
def Part.captures (part : Part) : List (String × List Char) :=
  [("unit", part.scale.letters), ("number", part.numeral)]

variable {text : List Char} {parts : List Part}

/-- The ways to read a unit, where milliseconds begin like minutes. -/
def unitReadings (scale : Scale) (rest : List Char) : List Reading :=
  ⟨[], rest⟩ :: if scale = .milliseconds then [⟨[], 's' :: rest⟩] else []

section Readings

variable {α : Type} {next : Reading → List α}

/-- A unit is read in one way, but milliseconds also as minutes, which are not preferred. -/
theorem readings_unitPattern (text : List Char) : unitPattern.readings text =
    (readScale text).elim [] fun found => unitReadings found.1 found.2 := by
  fun_cases readScale text with
  | case1 => rfl
  | case2 => rfl
  | case3 rest other =>
    cases rest with
    | nil => rfl
    | cons letter rest =>
      have apart : letter ≠ 's' := fun same => other rest (congrArg (· :: rest) same)
      simp [unitPattern, Pattern.readings, unitReadings, apart]
  | case4 => rfl
  | case5 text hours milliseconds minutes seconds =>
    cases text with
    | nil => rfl
    | cons letter rest =>
      have apart : letter ≠ 'h' ∧ letter ≠ 'm' ∧ letter ≠ 's' :=
        ⟨fun same => hours rest (congrArg (· :: rest) same),
          fun same => minutes rest (congrArg (· :: rest) same),
          fun same => seconds rest (congrArg (· :: rest) same)⟩
      simp [unitPattern, Pattern.readings, apart]

/-- A fraction is read in one way in front of something that begins with neither a digit nor a
point. -/
theorem flatMap_fractionPattern
    (stops : ∀ letter rest, Text.isDecimalDigit letter = true ∨ letter = '.' →
      next ⟨[], letter :: rest⟩ = []) :
    ((Pattern.optional fractionPattern).readings text).flatMap next =
      next ⟨[], (readFraction text).2⟩ := by
  have optional : (Pattern.optional fractionPattern).readings text =
      fractionPattern.readings text ++ [⟨[], text⟩] := rfl
  rw [optional, List.flatMap_append, List.flatMap_singleton]
  have pointed (rest : List Char) : (fractionPattern.readings ('.' :: rest)).flatMap next =
      if rest.takeWhile Text.isDecimalDigit = [] then []
      else next ⟨[], rest.dropWhile Text.isDecimalDigit⟩ := by
    have read : fractionPattern.readings ('.' :: rest) = digitsPattern.readings rest := by
      simp [fractionPattern, Pattern.readings]
    rw [read]
    exact Pattern.flatMap_run fun letter rest digit => stops letter rest (.inl digit)
  fun_cases readFraction text with
  | case1 rest empty => rw [pointed, if_pos empty, List.nil_append]
  | case2 rest filled =>
    rw [pointed, if_neg filled, stops '.' rest (.inr rfl), List.append_nil]
  | case3 text other =>
    have unread : fractionPattern.readings text = [] := by
      cases text with
      | nil => rfl
      | cons letter rest =>
        have apart : letter ≠ '.' := fun same => other rest (congrArg (· :: rest) same)
        simp [fractionPattern, Pattern.readings, apart]
    rw [unread]
    rfl

/-- The number in front of a unit is read in one way: with all its digits, and with its fraction if
it has one. -/
theorem flatMap_numberPattern
    (stops : ∀ letter rest, Text.isDecimalDigit letter = true ∨ letter = '.' →
      next ⟨[], letter :: rest⟩ = []) :
    (numberPattern.readings text).flatMap next =
      if text.takeWhile Text.isDecimalDigit = [] then []
      else next ⟨[], afterNumber text⟩ := by
  have point : Text.isDecimalDigit '.' = false := by decide
  have read : numberPattern.readings text = (digitsPattern.readings text).flatMap fun digits =>
      ((Pattern.optional fractionPattern).readings digits.rest).map (·.after digits) := rfl
  rw [read, List.flatMap_assoc, digitsPattern, Pattern.flatMap_run]
  · simp only [Reading.after_plain, List.map_id', flatMap_fractionPattern stops, afterNumber]
  · intro letter rest digit
    have other : letter ≠ '.' := by
      rintro rfl
      rw [point] at digit
      cases digit
    simp [Pattern.readings, fractionPattern, other, stops letter rest (.inl digit)]

/-- A number and its unit are read together as they are cut off by the model. -/
theorem flatMap_numberPattern_unitPattern (join : Reading → Reading → α) (text : List Char) :
    ((numberPattern.readings text).flatMap fun number =>
      (unitPattern.readings number.rest).map (join number)) =
      (readPart text).elim [] fun found =>
        (unitReadings found.1.scale found.2).map (join ⟨[], afterNumber text⟩) := by
  rw [flatMap_numberPattern, readPart_eq]
  · rw [readings_unitPattern]
    split
    · rfl
    · cases readScale (afterNumber text) <;> rfl
  · intro letter rest numeral
    rw [readings_unitPattern, readScale_eq_none numeral]
    rfl

/-- A part without names is read like its unit. -/
theorem readings_plainPart (text : List Char) :
    (Pattern.sequence numberPattern unitPattern).readings text =
      (readPart text).elim [] fun found => unitReadings found.1.scale found.2 := by
  have read : (Pattern.sequence numberPattern unitPattern).readings text =
      (numberPattern.readings text).flatMap fun number =>
        (unitPattern.readings number.rest).map (·.after number) := rfl
  rw [read, flatMap_numberPattern_unitPattern]
  simp only [Reading.after_plain, List.map_id']

/-- With its names, the pattern of a part captures the number and the unit. -/
theorem head?_partPattern (text : List Char) : (partPattern.readings text).head? =
    (readPart text).map fun found => ⟨found.1.captures, found.2⟩ := by
  have read : partPattern.readings text =
      ((numberPattern.readings text).map (·.under "number" text)).flatMap fun number =>
        ((unitPattern.readings number.rest).map (·.under "unit" number.rest)).map
          (·.after number) := rfl
  simp only [read, List.flatMap_map, List.map_map, Reading.under_rest]
  rw [flatMap_numberPattern_unitPattern fun number =>
    (·.after (number.under "number" text)) ∘ (·.under "unit" number.rest)]
  cases found : readPart text with
  | none => rfl
  | some cut =>
    obtain ⟨numeral, unit⟩ := cut_of_readPart found
    have number := Text.front_append cut.1.numeral (afterNumber text)
    rw [numeral] at number
    have scale := Text.front_append cut.1.scale.letters cut.2
    rw [← unit] at scale
    simp [unitReadings, Reading.after, Reading.under, number, scale, Part.captures]

end Readings

/-- The text fits the whole pattern when it is well-formed. -/
theorem fits_fullPattern_iff : fullPattern.Fits text ↔ isWellFormed text = true := by
  have unread (rest : List Char) : ¬fullPattern.Fits ('s' :: rest) := by
    rintro fits
    obtain ⟨reading, read, _⟩ := Pattern.fits_repeated_iff.mp fits
    rw [readings_plainPart] at read
    cases read
  fun_induction isWellFormed text with
  | case1 text none =>
    rw [fullPattern, Pattern.fits_repeated_iff, readings_plainPart, none]
    simp
  | case2 text part found =>
    rw [fullPattern, Pattern.fits_repeated_iff, readings_plainPart, found]
    simp [unitReadings]
  | case3 text part rest more found ih =>
    have filled : rest ≠ [] := more
    have shorter := readPart_length found
    rw [fullPattern, Pattern.fits_repeated_iff, readings_plainPart, found, ← fullPattern]
    simp only [Option.elim_some, unitReadings]
    split_ifs <;> simp [filled, shorter, ih, unread]

/-- The matches of the pattern of a part capture the parts that are scanned. -/
theorem captures_matchesAfter (skipped text : List Char) :
    (partPattern.matchesAfter skipped text).map Text.Match.captures =
      (scanParts text).map Part.captures := by
  fun_induction scanParts text generalizing skipped with
  | case1 => simp [Pattern.matchesAfter]
  | case2 letter text part rest found ih =>
    have shorter := readPart_length found
    rw [Pattern.matchesAfter, head?_partPattern, found]
    simp only [Option.map_some, if_pos shorter, List.map_cons, ih]
  | case3 letter text none ih =>
    rw [Pattern.matchesAfter, head?_partPattern, none]
    exact ih _

/-- In a sequence of well-written parts, the matches are the parts. -/
theorem allMatches_flatMap (written : ∀ part ∈ parts, part.IsWritten Text.isDecimalDigit) :
    partPattern.allMatches (parts.flatMap Part.letters) =
      parts.map fun part => ⟨[], part.letters, part.captures⟩ := by
  induction parts with
  | nil => simp [Pattern.allMatches, Pattern.matchesAfter]
  | cons part parts ih =>
    have others := fun other member => written other (List.mem_cons_of_mem part member)
    have found := readPart_letters (written part List.mem_cons_self) (isBoundary_flatMap others)
    have shorter := readPart_length found
    have front := Text.front_append part.letters (parts.flatMap Part.letters)
    obtain ⟨digit, letters, same, _⟩ := (written part List.mem_cons_self).letters_cons
    rw [same, List.cons_append] at found shorter front
    rw [List.flatMap_cons, same, List.cons_append, Pattern.allMatches, Pattern.matchesAfter,
      head?_partPattern, found]
    simp only [Option.map_some, if_pos shorter, front, List.map_cons, same]
    exact congrArg (_ :: ·) (ih others)

/-- The matches of a pattern tile a text: they follow each other, and their letters make it up. -/
structure Tiles (pattern : Pattern) (text : List Char) : Prop where
  adjacent : ∀ found ∈ pattern.allMatches text, found.skipped = []
  complete : (pattern.allMatches text).flatMap Text.Match.letters = text

/-- A text that fits the whole pattern is tiled by the matches of the pattern of a part, and no
match ends between the letters of a unit. -/
theorem tiles_of_fits (fits : fullPattern.Fits text) : Tiles partPattern text ∧
    ∀ before found after, partPattern.allMatches text = before ++ found :: after →
      IsBoundary (after.flatMap Text.Match.letters) := by
  obtain ⟨parts, _, written, rfl⟩ := isWellFormed_iff.mp (fits_fullPattern_iff.mp fits)
  rw [allMatches_flatMap written]
  have letters (parts : List Part) : (parts.map fun part =>
      (⟨[], part.letters, part.captures⟩ : Text.Match)).flatMap Text.Match.letters =
        parts.flatMap Part.letters := List.flatMap_map ..
  refine ⟨⟨?_, ?_⟩, ?_⟩
  · rw [allMatches_flatMap written]
    rintro found member
    obtain ⟨part, _, rfl⟩ := List.mem_map.mp member
    rfl
  · rw [allMatches_flatMap written, letters]
  · intro before found after split
    obtain ⟨first, last, rfl, _, same⟩ := List.map_eq_append_iff.mp split
    obtain ⟨part, others, rfl, _, rfl⟩ := List.map_eq_cons_iff.mp same
    rw [letters]
    exact isBoundary_flatMap fun other member =>
      written other (List.mem_append_right _ (List.mem_cons_of_mem part member))

/-- A duration text is checked against one pattern and taken apart with another one. The matches of
the second tile what fits the first, a duration comes from parts with plain digits only, and such
parts are refused only for their sum. -/
theorem duration_read_by_parts (source : String) :
    let text := (Text.trim source).toList
    (isWellFormed text = true ↔ fullPattern.Fits text) ∧
    (scanParts text).map Part.captures =
      (partPattern.allMatches text).map Text.Match.captures ∧
    (fullPattern.Fits text → Tiles partPattern text ∧
      ∀ before found after, partPattern.allMatches text = before ++ found :: after →
        IsBoundary (after.flatMap Text.Match.letters)) ∧
    (∀ span, parse source = .ok span → ∃ parts, parts ≠ [] ∧
      (∀ part ∈ parts, part.IsWritten Text.isAsciiDigit) ∧ text = parts.flatMap Part.letters) ∧
    ∀ parts, parts ≠ [] → (∀ part ∈ parts, part.IsWritten Text.isAsciiDigit) →
      text = parts.flatMap Part.letters → ∃ total, sumFrom .zero parts = some total ∧
        ((∃ span, parse source = .ok span) ∨
          (parse source = .error (.notPositive (Text.trim source)) ∧ total = .zero) ∨
          (parse source = .error (.outOfRange (Text.trim source)) ∧ ExceedsSpan total)) := by
  intro text
  refine ⟨fits_fullPattern_iff.symm, (captures_matchesAfter [] text).symm, tiles_of_fits,
    fun span parsed => ?_, fun parts filled written same => ?_⟩
  · obtain ⟨parts, _, filled, written, same, _⟩ := exists_parts_of_parse parsed
    exact ⟨parts, filled, written, same⟩
  · have decimal := fun part member => (written part member).mono
    have counted : (sumFrom .zero parts).isSome = true := isSome_sumFrom_iff.mpr
      fun part member => (isSome_seconds?_iff (decimal part member)).mpr (written part member)
    obtain ⟨total, summed⟩ := Option.isSome_iff_exists.mp counted
    have parsed := parse_of_parts filled decimal same
    rw [summed] at parsed
    refine ⟨total, summed, ?_⟩
    rw [parsed]
    exact (spanOf_cases _ total).imp_left fun ⟨span, rounded, _⟩ => ⟨span, rounded⟩

namespace Sample

/-- An hour and a half and half a second. -/
def lunch : List Part := [⟨['1'], some ['5'], .hours⟩, ⟨['5', '0', '0'], none, .milliseconds⟩]

theorem isWritten_lunch : ∀ part ∈ lunch, part.IsWritten Text.isAsciiDigit := by decide

/-- No hours at all. -/
def nothing : Part := ⟨['0'], none, .hours⟩

theorem isWritten_nothing : ∀ part ∈ [nothing], part.IsWritten Text.isAsciiDigit := by decide

end Sample

/-- Half a second is one match of milliseconds and no minutes, and no hours at all are refused for
their sum. -/
theorem sample_milliseconds_kept_whole :
    fullPattern.Fits (Text.trim " 1.5h500ms").toList ∧
    Tiles partPattern (Text.trim " 1.5h500ms").toList ∧
    parse " 1.5h500ms" = .ok ⟨5400500000000, by decide⟩ ∧
    (∃ parts, parts ≠ [] ∧ (∀ part ∈ parts, part.IsWritten Text.isAsciiDigit) ∧
      (Text.trim " 1.5h500ms").toList = parts.flatMap Part.letters) ∧
    [Sample.nothing] ≠ [] ∧ (∀ part ∈ [Sample.nothing], part.IsWritten Text.isAsciiDigit) ∧
    (Text.trim "0h").toList = [Sample.nothing].flatMap Part.letters ∧
    ∃ total, sumFrom .zero [Sample.nothing] = some total := by
  have trimmed : (Text.trim " 1.5h500ms").toList = Sample.lunch.flatMap Part.letters := by decide
  have decimal := fun part member => (Sample.isWritten_lunch part member).mono
  have fits : fullPattern.Fits (Text.trim " 1.5h500ms").toList :=
    fits_fullPattern_iff.mpr (isWellFormed_iff.mpr ⟨Sample.lunch, nofun, decimal, trimmed⟩)
  have parsed : parse " 1.5h500ms" = .ok ⟨5400500000000, by decide⟩ := by
    rw [parse_of_parts (List.cons_ne_nil _ _) decimal trimmed]
    decide +kernel
  have nothing : (Text.trim "0h").toList = [Sample.nothing].flatMap Part.letters := by decide
  obtain ⟨_, _, tiled, made, _⟩ := duration_read_by_parts " 1.5h500ms"
  obtain ⟨_, _, _, _, summed⟩ := duration_read_by_parts "0h"
  obtain ⟨total, sum, _⟩ := summed _ (List.cons_ne_nil _ _) Sample.isWritten_nothing nothing
  exact ⟨fits, (tiled fits).1, parsed, made _ parsed, List.cons_ne_nil _ _,
    Sample.isWritten_nothing, nothing, total, sum⟩

end Issuance.DurationText
