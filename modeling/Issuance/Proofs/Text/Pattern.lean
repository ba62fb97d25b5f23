import Mathlib.Data.List.TakeWhile

/- Patterns of texts. A pattern is read at the front of a text in several ways, which come in the
order of preference, and it is searched for from left to right. -/
namespace Issuance.Text

/-- A pattern of a text, where optional and repeated parts are read as often as possible first. -/
inductive Pattern where
  | letter (accepts : Char → Bool)
  | sequence (first second : Pattern)
  | choice (first second : Pattern)
  | optional (part : Pattern)
  | repeated (part : Pattern)
  | named (name : String) (part : Pattern)

/-- One way to read a pattern: the letters of its named parts, the last one first, and the rest of
the text. -/
structure Reading where
  captures : List (String × List Char)
  rest : List Char
  deriving DecidableEq

/-- A reading that goes on where an earlier one has ended. -/
def Reading.after (later earlier : Reading) : Reading :=
  ⟨later.captures ++ earlier.captures, later.rest⟩

/-- What stands before a rest of a text. -/
def front (text rest : List Char) : List Char := text.take (text.length - rest.length)

/-- A reading of a text under a name. -/
def Reading.under (name : String) (text : List Char) (reading : Reading) : Reading :=
  ⟨(name, front text reading.rest) :: reading.captures, reading.rest⟩

/-- A match of a pattern in a text, with the letters between it and the match before. -/
structure Match where
  skipped : List Char
  letters : List Char
  captures : List (String × List Char)
  deriving DecidableEq

namespace Pattern

/-- Something is read once or more often, and more often only when a reading has taken letters. -/
def repeatedly (read : List Char → List Reading) (text : List Char) : List Reading :=
  (read text).flatMap fun reading =>
    if reading.rest.length < text.length then
      (repeatedly read reading.rest).map (·.after reading) ++ [reading]
    else [reading]
  termination_by text.length
  decreasing_by assumption

/-- The ways to read a pattern at the front of a text, the preferred one first. -/
def readings : Pattern → List Char → List Reading
  | letter _, [] => []
  | letter accepts, first :: rest => if accepts first then [⟨[], rest⟩] else []
  | sequence first second, text => (readings first text).flatMap fun reading =>
      (readings second reading.rest).map (·.after reading)
  | choice first second, text => readings first text ++ readings second text
  | optional part, text => readings part text ++ [⟨[], text⟩]
  | repeated part, text => repeatedly (readings part) text
  | named name part, text => (readings part text).map (·.under name text)

/-- A text fits a pattern when one way to read the pattern leaves nothing of it. -/
def Fits (pattern : Pattern) (text : List Char) : Prop :=
  ∃ reading ∈ pattern.readings text, reading.rest = []

/-- The matches after some skipped letters: at each place the preferred reading counts, and the
search goes on behind it. Readings that take no letters are not counted. -/
def matchesAfter (pattern : Pattern) (skipped : List Char) : List Char → List Match
  | [] => []
  | first :: text =>
    match (pattern.readings (first :: text)).head? with
    | none => matchesAfter pattern (skipped ++ [first]) text
    | some reading =>
      if reading.rest.length < (first :: text).length then
        ⟨skipped, front (first :: text) reading.rest, reading.captures⟩ ::
          matchesAfter pattern [] reading.rest
      else matchesAfter pattern (skipped ++ [first]) text
  termination_by text => text.length
  decreasing_by
    · exact Nat.lt_succ_self _
    · assumption
    · exact Nat.lt_succ_self _

/-- The matches of a pattern in a text from left to right. -/
def allMatches (pattern : Pattern) (text : List Char) : List Match := pattern.matchesAfter [] text

end Pattern

variable {text rest : List Char} {accepts : Char → Bool}

@[simp] theorem front_append (before rest : List Char) : front (before ++ rest) rest = before := by
  simp [front]

@[simp] theorem Reading.after_plain (later : Reading) (rest : List Char) :
    later.after ⟨[], rest⟩ = later := by
  simp [after]

@[simp] theorem Reading.under_rest (name : String) (text : List Char) (reading : Reading) :
    (reading.under name text).rest = reading.rest := rfl

namespace Pattern

/-- A repeated part leaves nothing when one of its readings does or is followed by such readings. -/
theorem fits_repeated_iff {part : Pattern} : (repeated part).Fits text ↔
    ∃ reading ∈ part.readings text, reading.rest = [] ∨
      reading.rest.length < text.length ∧ (repeated part).Fits reading.rest := by
  have unfolded (text : List Char) : (repeated part).readings text =
      repeatedly part.readings text := rfl
  simp only [Fits, unfolded]
  rw [repeatedly]
  simp only [List.mem_flatMap]
  constructor
  · rintro ⟨last, ⟨reading, read, member⟩, done⟩
    refine ⟨reading, read, ?_⟩
    split at member
    · next shorter =>
      rcases List.mem_append.mp member with more | once
      · obtain ⟨later, found, rfl⟩ := List.mem_map.mp more
        exact .inr ⟨shorter, later, found, done⟩
      · rw [List.mem_singleton.mp once] at done
        exact .inl done
    · rw [List.mem_singleton.mp member] at done
      exact .inl done
  · rintro ⟨reading, read, done | ⟨shorter, later, found, done⟩⟩
    · refine ⟨reading, ⟨reading, read, ?_⟩, done⟩
      split
      · exact List.mem_append_right _ (List.mem_singleton_self reading)
      · exact List.mem_singleton_self reading
    · refine ⟨later.after reading, ⟨reading, read, ?_⟩, done⟩
      rw [if_pos shorter]
      exact List.mem_append_left _ (List.mem_map_of_mem found)

/-- A run of letters is read to its end first, and then with fewer and fewer letters. -/
theorem readings_run_cons (letter : Char) : (repeated (.letter accepts)).readings (letter :: text) =
    if accepts letter then (repeated (.letter accepts)).readings text ++ [⟨[], text⟩] else [] := by
  change repeatedly _ _ = if _ then repeatedly _ _ ++ _ else _
  rw [repeatedly]
  split
  · next accepted => simp [readings, accepted]
  · next refused => simp [readings, refused]

/-- Where nothing that follows can begin with a letter of the run, only the whole run is of use. -/
theorem flatMap_run {α : Type} {next : Reading → List α}
    (stops : ∀ letter rest, accepts letter = true → next ⟨[], letter :: rest⟩ = []) :
    ((repeated (.letter accepts)).readings text).flatMap next =
      if text.takeWhile accepts = [] then [] else next ⟨[], text.dropWhile accepts⟩ := by
  induction text with
  | nil =>
    have none : (repeated (.letter accepts)).readings [] = [] := by
      change repeatedly _ _ = _
      rw [repeatedly]
      rfl
    simp [none]
  | cons letter text ih =>
    rw [readings_run_cons]
    by_cases accepted : accepts letter = true
    · rw [if_pos accepted, List.flatMap_append, ih, List.takeWhile_cons_of_pos accepted,
        List.dropWhile_cons_of_pos accepted, if_neg (List.cons_ne_nil _ _)]
      cases text with
      | nil => simp
      | cons second text =>
        by_cases further : accepts second = true
        · simp [further, stops]
        · simp [further]
    · simp [accepted]

end Pattern

end Issuance.Text
