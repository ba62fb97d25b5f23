import Mathlib.Data.List.DropRight
import Issuance.Text.Blank

namespace Issuance.Text

/-- Neither end of a text is a blank. -/
structure IsTrimmed (text : String) : Prop where
  first : ∀ letter ∈ text.toList.head?, isBlank letter = false
  last : ∀ letter ∈ text.toList.getLast?, isBlank letter = false

/-- A text stands between blanks. -/
def Pads (text padded : String) : Prop :=
  ∃ before after, isBlankText before = true ∧ isBlankText after = true ∧
    padded = before ++ (text ++ after)

section Letters

variable {letters before after : List Char}

theorem trimBlanks_eq (letters : List Char) :
    trimBlanks letters = (letters.dropWhile isBlank).rdropWhile isBlank := rfl

theorem rdropWhile_append_blanks (trailing : ∀ letter ∈ after, isBlank letter = true) :
    (letters ++ after).rdropWhile isBlank = letters.rdropWhile isBlank := by
  have blanks : ∀ letter ∈ after.reverse, isBlank letter = true :=
    fun letter member => trailing letter (List.mem_reverse.mp member)
  rw [List.rdropWhile, List.reverse_append, List.dropWhile_append_of_pos blanks, List.rdropWhile]

/-- Blanks around a text make no difference. -/
theorem trimBlanks_append (leading : ∀ letter ∈ before, isBlank letter = true)
    (trailing : ∀ letter ∈ after, isBlank letter = true) :
    trimBlanks (before ++ (letters ++ after)) = trimBlanks letters := by
  rw [trimBlanks_eq, trimBlanks_eq, List.dropWhile_append_of_pos leading, List.dropWhile_append]
  split
  · next blank =>
    rw [List.isEmpty_iff.mp blank, List.dropWhile_eq_nil_iff.mpr trailing]
  · exact rdropWhile_append_blanks trailing

/-- A text that does not begin or end with a blank is left as it is. -/
theorem trimBlanks_of_isTrimmed (first : ∀ letter ∈ letters.head?, isBlank letter = false)
    (last : ∀ letter ∈ letters.getLast?, isBlank letter = false) :
    trimBlanks letters = letters := by
  have kept : letters.dropWhile isBlank = letters := by
    cases letters with
    | nil => rfl
    | cons letter letters => exact List.dropWhile_cons_of_neg (by simp [first letter rfl])
  rw [trimBlanks_eq, kept, List.rdropWhile_eq_self_iff]
  intro filled
  exact Bool.eq_false_iff.mp (last _ (List.getLast_mem_getLast? filled))

end Letters

variable {text padded : String}

/-- What is left of a text has no blanks at its ends. -/
theorem isTrimmed_trim (text : String) : IsTrimmed (trim text) := by
  rw [trim]
  constructor
  · rw [String.toList_ofList, trimBlanks_eq]
    intro letter first
    obtain ⟨rest, same⟩ := List.head?_eq_some_iff.mp first
    obtain ⟨dropped, whole⟩ := List.rdropWhile_prefix isBlank (text.toList.dropWhile isBlank)
    have front : (text.toList.dropWhile isBlank).head? = some letter := by
      rw [← whole, same]
      rfl
    have stopped := List.head?_dropWhile_not isBlank text.toList
    rwa [front] at stopped
  · rw [String.toList_ofList, trimBlanks_eq]
    intro letter last
    obtain ⟨filled, rfl⟩ := List.mem_getLast?_eq_getLast last
    exact Bool.eq_false_iff.mpr (List.rdropWhile_last_not isBlank _ filled)

theorem IsTrimmed.trim_eq (trimmed : IsTrimmed text) : trim text = text := by
  rw [trim, trimBlanks_of_isTrimmed trimmed.first trimmed.last, String.ofList_toList]

theorem isTrimmed_iff : IsTrimmed text ↔ trim text = text :=
  ⟨IsTrimmed.trim_eq, fun same => same ▸ isTrimmed_trim text⟩

instance (text : String) : Decidable (IsTrimmed text) := decidable_of_iff' _ isTrimmed_iff

theorem isTrimmed_of_visible (visible : ∀ letter ∈ text.toList, isBlank letter = false) :
    IsTrimmed text :=
  ⟨fun letter first => visible letter (List.mem_of_mem_head? first),
    fun letter last => visible letter (List.mem_of_mem_getLast? last)⟩

theorem Pads.trim_eq (pads : Pads text padded) : trim padded = trim text := by
  obtain ⟨before, after, leading, trailing, rfl⟩ := pads
  rw [trim, String.toList_append, String.toList_append,
    trimBlanks_append (List.all_eq_true.mp leading) (List.all_eq_true.mp trailing), trim]

/-- A text is what is left of it between the blanks that are taken from it. -/
theorem pads_trim (text : String) : Pads (trim text) text := by
  refine ⟨.ofList (text.toList.takeWhile isBlank),
    .ofList ((text.toList.dropWhile isBlank).rtakeWhile isBlank), ?_, ?_, ?_⟩
  · rw [isBlankText, String.toList_ofList]
    exact List.all_takeWhile
  · rw [isBlankText, String.toList_ofList]
    exact List.all_eq_true.mpr fun letter => List.mem_rtakeWhile_imp
  · rw [trim, trimBlanks_eq, ← String.ofList_append, List.rdropWhile_append_rtakeWhile,
      ← String.ofList_append, List.takeWhile_append_dropWhile, String.ofList_toList]

/-- Nothing is left of a blank text. -/
theorem trim_eq_empty_iff : trim text = "" ↔ isBlankText text = true := by
  constructor
  · intro empty
    obtain ⟨before, after, leading, trailing, same⟩ := pads_trim text
    rw [empty, String.empty_append] at same
    rw [same, isBlankText, String.toList_append, List.all_append, Bool.and_eq_true]
    exact ⟨leading, trailing⟩
  · intro blank
    have pads : Pads "" text := ⟨text, "", blank, rfl, by simp⟩
    exact pads.trim_eq

end Issuance.Text
