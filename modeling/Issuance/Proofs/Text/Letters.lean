import Mathlib.Data.List.Infix
import Mathlib.Data.List.TakeWhile
import Issuance.Text.Blank

namespace Issuance.Text

/-- A run of letters ends where another letter begins. -/
theorem span_run {accepts : Char → Bool} {run rest : List Char}
    (within : ∀ letter ∈ run, accepts letter = true)
    (ends : ∀ letter ∈ rest.head?, accepts letter = false) :
    (run ++ rest).takeWhile accepts = run ∧ (run ++ rest).dropWhile accepts = rest := by
  rw [List.takeWhile_append_of_pos within, List.dropWhile_append_of_pos within]
  cases rest with
  | nil => simp
  | cons letter rest => simp [ends letter rfl]

/-- What stands before a first mark, and what starts with it. -/
theorem span_mark {mark : Char} {before after : List Char} (absent : mark ∉ before)
    (next : ∀ letter ∈ after.head?, letter = mark) :
    (before ++ after).takeWhile (· ≠ mark) = before ∧
      (before ++ after).dropWhile (· ≠ mark) = after := by
  refine span_run (fun letter member => ?_) fun letter first => ?_
  · simp only [decide_eq_true_eq]
    rintro rfl
    exact absent member
  · simpa using next letter first

/-- Every text is cut at its first mark. -/
theorem exists_span_mark (mark : Char) (text : List Char) :
    ∃ before after, text = before ++ after ∧ mark ∉ before ∧
      ∀ letter ∈ after.head?, letter = mark := by
  refine ⟨text.takeWhile (· ≠ mark), text.dropWhile (· ≠ mark),
    List.takeWhile_append_dropWhile.symm, fun member => ?_, fun letter first => ?_⟩
  · simpa using List.mem_takeWhile_imp member
  · have stops := List.head?_dropWhile_not (· ≠ mark) text
    rw [first] at stops
    simpa using stops

/-- The search for a text finds it at any place. -/
theorem occurs_iff {needle text : List Char} : occurs needle text = true ↔ needle <:+: text := by
  induction text with
  | nil => simp [occurs]
  | cons letter text ih =>
      rw [occurs, Bool.or_eq_true, List.isPrefixOf_iff_prefix, ih, List.infix_cons_iff]

end Issuance.Text
