import Issuance.Config.Environment
import Issuance.Proofs.Text.Trimming

namespace Issuance

namespace Text

/-- The digits that count in numbers are those of the decimal system. -/
theorem isAsciiDigit_eq_isDigit (letter : Char) : isAsciiDigit letter = letter.isDigit := by
  simp only [isAsciiDigit, Char.isDigit, ge_iff_le, UInt32.le_iff_toNat_le]
  rfl

theorem isBlank_of_isDigit {letter : Char} (digit : letter.isDigit = true) :
    isBlank letter = false := by
  rw [← isAsciiDigit_eq_isDigit, isAsciiDigit, Bool.and_eq_true, decide_eq_true_eq,
    decide_eq_true_eq] at digit
  simp only [isBlank, inRanges, blankRanges, List.any_cons, List.any_nil, Bool.or_false,
    Bool.or_eq_false_iff, Bool.and_eq_false_iff, decide_eq_false_iff_not]
  omega

end Text

namespace Environment

/-- A text writes an unsigned number in decimal digits, which a plus sign may lead. -/
def Writes (text : String) (number : Nat) : Prop :=
  ∃ digits : List Char, digits ≠ [] ∧ (∀ digit ∈ digits, digit.isDigit = true) ∧
    (text.toList = digits ∨ text.toList = '+' :: digits) ∧ Nat.ofDigitChars 10 digits 0 = number

/-- What the value of a variable has to be so that it counts. -/
inductive Form where
  | number (limit : Nat)
  | text
  deriving DecidableEq

/-- A number has to lie below a limit, and a text must not be blank. -/
def Form.Accepts : Form → String → Prop
  | number limit, value => ∃ number < limit, Writes (Text.trim value) number
  | text, value => Text.isBlankText value = false

/-- Two values of a variable are alike when they differ in blanks around them, or when neither of
them counts. A value that is missing does not count either. -/
inductive Alike (form : Form) : Option String → Option String → Prop
  | padded {text left right : String} (first : Text.Pads text left)
      (second : Text.Pads text right) : Alike form (some left) (some right)
  | unusable {left right : Option String} (first : ∀ value ∈ left, ¬form.Accepts value)
      (second : ∀ value ∈ right, ¬form.Accepts value) : Alike form left right

/-- Two environments agree on variables, each of a form, when their values are alike. -/
def AgreeOn (inputs : List (String × Form)) (left right : Environment) : Prop :=
  ∀ input ∈ inputs, Alike input.2 (left input.1) (right input.1)

variable {text value name : String} {limit number : Nat} {left right : Option String}

theorem dropPlus_eq_iff {letters digits : List Char} (unsigned : '+' ∉ digits) :
    dropPlus letters = digits ↔ letters = digits ∨ letters = '+' :: digits := by
  fun_cases dropPlus letters with
  | case1 rest =>
    constructor
    · rintro rfl
      exact .inr rfl
    · rintro (rfl | same)
      · exact absurd List.mem_cons_self unsigned
      · exact (List.cons.inj same).2
  | case2 =>
    next other => exact ⟨.inl, fun written => written.resolve_right (other digits)⟩

/-- The numbers that are read are those that are written. -/
theorem readNumber_eq_some_iff : readNumber text = some number ↔ Writes text number := by
  have read : readNumber text = some number ↔ dropPlus text.toList ≠ [] ∧
      (∀ digit ∈ dropPlus text.toList, digit.isDigit = true) ∧
      Nat.ofDigitChars 10 (dropPlus text.toList) 0 = number := by
    rw [readNumber]
    simp [Text.isAsciiDigit_eq_isDigit, Text.digitsValue, Nat.ofDigitChars_eq_foldl, and_assoc]
  rw [read]
  constructor
  · rintro ⟨filled, plain, same⟩
    have unsigned : '+' ∉ dropPlus text.toList := fun member => by cases plain _ member
    exact ⟨_, filled, plain, (dropPlus_eq_iff unsigned).mp rfl, same⟩
  · rintro ⟨digits, filled, plain, written, same⟩
    have unsigned : '+' ∉ digits := fun member => by cases plain _ member
    rw [(dropPlus_eq_iff unsigned).mpr written]
    exact ⟨filled, plain, same⟩

theorem readBelow_eq_some_iff :
    readBelow limit value = some number ↔ Writes (Text.trim value) number ∧ number < limit := by
  rw [readBelow, Option.filter_eq_some_iff, readNumber_eq_some_iff, decide_eq_true_eq]

theorem isSome_readBelow_iff :
    (readBelow limit value).isSome = true ↔ (Form.number limit).Accepts value := by
  rw [Option.isSome_iff_exists]
  simp only [readBelow_eq_some_iff, Form.Accepts, and_comm]

instance (form : Form) (value : String) : Decidable (form.Accepts value) :=
  match form with
  | .number _ => decidable_of_iff _ isSome_readBelow_iff
  | .text => inferInstanceAs (Decidable (Text.isBlankText value = false))

/-- The digits of a number write this number. -/
theorem writes_repr (number : Nat) : Writes (Text.trim number.repr) number := by
  have digits : ∀ letter ∈ number.repr.toList, letter.isDigit = true := fun letter member =>
    Nat.isDigit_of_mem_toDigits (by decide) (Nat.le_refl 10) (Nat.toList_repr ▸ member)
  have trimmed : Text.IsTrimmed number.repr :=
    Text.isTrimmed_of_visible fun letter member => Text.isBlank_of_isDigit (digits letter member)
  rw [trimmed.trim_eq]
  refine ⟨number.repr.toList, ?_, digits, .inl rfl, ?_⟩
  · rw [Nat.toList_repr]
    exact Nat.toDigits_ne_nil
  · rw [Nat.toList_repr, Nat.ofDigitChars_ten_toDigits]

section Alike

variable {form : Form}

/-- Values with blanks around them are alike when the same is left of them. -/
theorem alike_iff : Alike form left right ↔
    (∃ first ∈ left, ∃ second ∈ right, Text.trim first = Text.trim second) ∨
      (∀ value ∈ left, ¬form.Accepts value) ∧ ∀ value ∈ right, ¬form.Accepts value := by
  constructor
  · rintro (⟨first, second⟩ | ⟨first, second⟩)
    · exact .inl ⟨_, rfl, _, rfl, first.trim_eq.trans second.trim_eq.symm⟩
    · exact .inr ⟨first, second⟩
  · rintro (⟨first, rfl, second, rfl, same⟩ | ⟨first, second⟩)
    · exact .padded (Text.pads_trim first) (same ▸ Text.pads_trim second)
    · exact .unusable first second

instance : Decidable (Alike form left right) := decidable_of_iff' _ alike_iff

instance (inputs : List (String × Form)) (left right : Environment) :
    Decidable (AgreeOn inputs left right) :=
  inferInstanceAs (Decidable (∀ input ∈ inputs, Alike input.2 (left input.1) (right input.1)))

/-- Numbers are read alike from values that are alike. -/
theorem Alike.bind_readBelow (alike : Alike (.number limit) left right) :
    left.bind (readBelow limit) = right.bind (readBelow limit) := by
  cases alike with
  | padded first second =>
    rw [Option.bind_some, Option.bind_some, readBelow, readBelow, first.trim_eq, second.trim_eq]
  | unusable first second =>
    have missing {value : Option String}
        (refused : ∀ text ∈ value, ¬(Form.number limit).Accepts text) :
        value.bind (readBelow limit) = none := by
      refine Option.bind_eq_none_iff.mpr fun text present => ?_
      exact Option.not_isSome_iff_eq_none.mp (mt isSome_readBelow_iff.mp (refused text present))
    rw [missing first, missing second]

/-- Texts are read alike from values that are alike. -/
theorem Alike.filter_trim (alike : Alike .text left right) :
    ((left.map Text.trim).filter fun value => !value.isEmpty) =
      (right.map Text.trim).filter fun value => !value.isEmpty := by
  cases alike with
  | padded first second => rw [Option.map_some, Option.map_some, first.trim_eq, second.trim_eq]
  | unusable first second =>
    have missing {value : Option String} (blank : ∀ text ∈ value, ¬Form.text.Accepts text) :
        ((value.map Text.trim).filter fun text => !text.isEmpty) = none := by
      cases value with
      | none => rfl
      | some text =>
        have empty : Text.trim text = "" :=
          Text.trim_eq_empty_iff.mpr (eq_true_of_ne_false (blank text rfl))
        rw [Option.map_some, empty]
        rfl
    rw [missing first, missing second]

end Alike

section Settings

variable {first second : Environment}

theorem word64_eq_of_alike (alike : Alike (.number UInt64.size) (first name) (second name))
    (standard : UInt64) : first.word64 name standard = second.word64 name standard := by
  rw [word64, word64, alike.bind_readBelow]

theorem word16_eq_of_alike (alike : Alike (.number UInt16.size) (first name) (second name))
    (standard : UInt16) : first.word16 name standard = second.word16 name standard := by
  rw [word16, word16, alike.bind_readBelow]

theorem text_eq_of_alike (alike : Alike .text (first name) (second name)) (standard : String) :
    first.text name standard = second.text name standard := by
  rw [text, text, alike.filter_trim]

theorem word64_repr (environment : Environment) (name : String) {number : UInt64}
    (set : environment name = some number.toNat.repr) (standard : UInt64) :
    environment.word64 name standard = number := by
  have read : readBelow UInt64.size number.toNat.repr = some number.toNat :=
    readBelow_eq_some_iff.mpr ⟨writes_repr _, number.toNat_lt⟩
  rw [word64, set, Option.bind_some, read, Option.map_some, Option.getD_some, UInt64.ofNat_toNat]

theorem word16_repr (environment : Environment) (name : String) {number : UInt16}
    (set : environment name = some number.toNat.repr) (standard : UInt16) :
    environment.word16 name standard = number := by
  have read : readBelow UInt16.size number.toNat.repr = some number.toNat :=
    readBelow_eq_some_iff.mpr ⟨writes_repr _, number.toNat_lt⟩
  rw [word16, set, Option.bind_some, read, Option.map_some, Option.getD_some, UInt16.ofNat_toNat]

/-- A text that is not empty and has no blanks at its ends. -/
structure IsTidy (text : String) : Prop where
  filled : text ≠ ""
  trimmed : Text.IsTrimmed text

instance (text : String) : Decidable (IsTidy text) :=
  decidable_of_iff (text ≠ "" ∧ Text.IsTrimmed text)
    ⟨fun tidy => ⟨tidy.1, tidy.2⟩, fun tidy => ⟨tidy.filled, tidy.trimmed⟩⟩

theorem text_tidy (environment : Environment) (name : String) (tidy : IsTidy value)
    (set : environment name = some value) (standard : String) :
    environment.text name standard = value := by
  rw [text, set, Option.map_some, tidy.trimmed.trim_eq, Option.filter_some_pos, Option.getD_some]
  simpa using tidy.filled

theorem isTidy_text (environment : Environment) (name : String) {standard : String}
    (tidy : IsTidy standard) : IsTidy (environment.text name standard) := by
  rw [text]
  cases found : ((environment name).map Text.trim).filter fun value => !value.isEmpty with
  | none => exact tidy
  | some value =>
    obtain ⟨trimmed, filled⟩ := Option.filter_eq_some_iff.mp found
    obtain ⟨given, _, rfl⟩ := Option.map_eq_some_iff.mp trimmed
    exact ⟨by simpa using filled, Text.isTrimmed_trim given⟩

end Settings

end Environment

end Issuance
