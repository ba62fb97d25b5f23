import Mathlib.Data.List.Forall2
import Issuance.Encoding.Json

namespace Issuance.Json

variable {α : Type} {write : α → Json} {read : Json → Option α}

section Members

variable (name key : String) (members : List (String × Json))

@[simp] theorem lookup_append (later : List (String × Json)) :
    (members ++ later).lookup key = (members.lookup key).or (later.lookup key) :=
  List.lookup_append

@[simp] theorem lookup_cons (value : Json) :
    ((name, value) :: members).lookup key =
      if key = name then some value else members.lookup key := by
  by_cases same : key = name
  · simp [same]
  · simp [same, List.lookup_cons, beq_false_of_ne same]

@[simp] theorem lookup_optional (value : Option α) :
    (optional name write value).lookup key = if key = name then value.map write else none := by
  cases value <;> simp [optional]

theorem optional_none : optional name write none = [] := rfl

/-- The members of a record are read at once. -/
theorem asRecord_bind (next : List (String × Json) → Option α) :
    (asRecord (record members) >>= next) = next members := rfl

/-- What a member that may be missing or null says. -/
def orNull (read : Json → Option α) : Option Json → Option (Option α)
  | none => some none
  | some null => some none
  | some value => (read value).map some

@[simp] theorem orNull_none : orNull read none = some none := rfl

@[simp] theorem required_eq : required name read members = (members.lookup name).bind read := rfl

@[simp] theorem nullable_eq : nullable name read members = orNull read (members.lookup name) := rfl

@[simp] theorem defaulted_eq (default : α) :
    defaulted name read default members = (members.lookup name).elim (some default) read := by
  unfold defaulted
  cases members.lookup name <;> rfl

end Members

/-- A value is read back as it was written, and it is not written as null. -/
structure Restores (write : α → Json) (read : Json → Option α) (value : α) : Prop where
  reads : read (write value) = some value
  filled : write value ≠ .null

@[simp] theorem restores_text (value : String) : Restores .text asText value := ⟨rfl, nofun⟩

@[simp] theorem restores_list {values : List α}
    (each : ∀ value ∈ values, Restores write read value) :
    Restores (ofList write) (asList read) values := by
  refine ⟨?_, nofun⟩
  change (values.map write).mapM read = some values
  induction values with
  | nil => rfl
  | cons value values ih =>
      have rest := ih fun later member => each later (List.mem_cons_of_mem _ member)
      simp [(each value List.mem_cons_self).reads, rest]

@[simp] theorem restores_map {values : List (String × α)}
    (each : ∀ value ∈ values, Restores write read value.2) :
    Restores (ofMap write) (asMap read) values := by
  refine ⟨?_, nofun⟩
  change (values.map fun value => (value.1, write value.2)).mapM
    (fun member => (read member.2).map (member.1, ·)) = some values
  induction values with
  | nil => rfl
  | cons value values ih =>
      have rest := ih fun later member => each later (List.mem_cons_of_mem _ member)
      simp [(each value List.mem_cons_self).reads, rest]

/-- A value that is left out when there is none is read back either way. -/
@[simp] theorem orNull_map {value : Option α}
    (restores : ∀ present ∈ value, Restores write read present) :
    orNull read (value.map write) = some value := by
  cases value with
  | none => rfl
  | some value =>
    obtain ⟨reads, filled⟩ := restores value rfl
    rw [Option.map_some]
    generalize write value = json at reads filled
    cases json with
    | null => exact absurd rfl filled
    | _ => exact congrArg (Option.map some) reads

/-- What a reader knows of a member of a record: its name, whether it may be null, and which values
it takes for the same. -/
structure Member where
  name : String
  isNullable : Bool
  grows : Json → Json → Prop

namespace Member

/-- A member of which nothing may change. -/
def plain (name : String) : Member := ⟨name, false, Eq⟩

/-- A member of which nothing may change but that it may be null. -/
def plainOrNull (name : String) : Member := ⟨name, true, Eq⟩

/-- A member stays as it is, it grows, or null is given for a missing one. -/
inductive Allows (member : Member) : Option Json → Option Json → Prop where
  | same (json : Option Json) : member.Allows json json
  | grown {old new : Json} (grows : member.grows old new) : member.Allows (some old) (some new)
  | nulled (nullable : member.isNullable = true) : member.Allows none (some .null)

end Member

/-- A record grows by members that nobody knows, by null for missing members, and by the growth of
the members that are known. -/
inductive Grows (known : List Member) : Json → Json → Prop where
  | same (json : Json) : Grows known json json
  | record {old new : List (String × Json)}
      (allowed : ∀ member ∈ known,
        member.Allows (old.lookup member.name) (new.lookup member.name)) :
      Grows known (.record old) (.record new)

/-- A list grows by the growth of its items. -/
inductive GrowsEach (grows : Json → Json → Prop) : Json → Json → Prop where
  | list {old new : List Json} (each : List.Forall₂ grows old new) :
      GrowsEach grows (.list old) (.list new)

/-- A reader does not see that a value grows, and null comes from null only. -/
structure Overlooks (read : Json → Option α) (grows : Json → Json → Prop) : Prop where
  reads : ∀ {old new : Json}, grows old new → read new = read old
  null : ∀ {old new : Json}, grows old new → (new = .null ↔ old = .null)

variable {grows : Json → Json → Prop} {known : List Member}

theorem overlooks_eq (read : Json → Option α) : Overlooks read Eq where
  reads same := congrArg read same.symm
  null same := by rw [same]

theorem Overlooks.list (overlooks : Overlooks read grows) :
    Overlooks (asList read) (GrowsEach grows) where
  reads := by
    rintro _ _ ⟨each⟩
    change List.mapM read _ = List.mapM read _
    induction each with
    | nil => rfl
    | cons grown each ih => simp [overlooks.reads grown, ih]
  null := by
    rintro _ _ ⟨each⟩
    exact ⟨nofun, nofun⟩

/-- A reader of records that sees only what is known of them overlooks growth. -/
theorem overlooks_record
    (reads : ∀ old new,
      (∀ member ∈ known, member.Allows (old.lookup member.name) (new.lookup member.name)) →
        read (.record new) = read (.record old)) : Overlooks read (Grows known) where
  reads := by
    intro old new grown
    cases grown with
    | same => rfl
    | record allowed => exact reads _ _ allowed
  null := by
    intro old new grown
    cases grown with
    | same => rfl
    | record allowed => exact ⟨nofun, nofun⟩

section Growth

variable {name : String} {before after : Option Json}

theorem bind_grown (allowed : Member.Allows ⟨name, false, grows⟩ before after)
    (overlooks : Overlooks read grows) : after.bind read = before.bind read := by
  cases allowed with
  | same => rfl
  | grown grows => exact overlooks.reads grows
  | nulled nullable => cases nullable

theorem elim_grown (allowed : Member.Allows ⟨name, false, grows⟩ before after)
    (overlooks : Overlooks read grows) (default : Option α) :
    after.elim default read = before.elim default read := by
  cases allowed with
  | same => rfl
  | grown grows => exact overlooks.reads grows
  | nulled nullable => cases nullable

theorem orNull_grown (allowed : Member.Allows ⟨name, true, grows⟩ before after)
    (overlooks : Overlooks read grows) : orNull read after = orNull read before := by
  cases allowed with
  | same => rfl
  | nulled nullable => rfl
  | @grown old new grows =>
    have empty := overlooks.null grows
    cases old with
    | null => rw [empty.mpr rfl]
    | _ =>
      cases new with
      | null => cases empty.mp rfl
      | _ => exact congrArg (Option.map some) (overlooks.reads grows)

end Growth

section Records

variable {name : String} {old new : List (String × Json)}

theorem lookup_of_plain (allowed : (Member.plain name).Allows
      (old.lookup (Member.plain name).name) (new.lookup (Member.plain name).name)) :
    new.lookup name = old.lookup name := by
  change (Member.plain name).Allows (old.lookup name) (new.lookup name) at allowed
  generalize old.lookup name = before at allowed ⊢
  generalize new.lookup name = after at allowed ⊢
  cases allowed with
  | same => rfl
  | grown same => rw [same]
  | nulled nullable => cases nullable

theorem orNull_of_plain (allowed : (Member.plainOrNull name).Allows
      (old.lookup (Member.plainOrNull name).name) (new.lookup (Member.plainOrNull name).name)) :
    orNull read (new.lookup name) = orNull read (old.lookup name) :=
  orNull_grown allowed (overlooks_eq read)

end Records

section Additions

variable {before after : List (String × Json)} {name : String}

/-- A record grows by a member that nobody knows. -/
theorem grows_unknown (unknown : ∀ member ∈ known, member.name ≠ name) (value : Json) :
    Grows known (.record (before ++ after)) (.record (before ++ (name, value) :: after)) := by
  refine .record fun member knows => ?_
  have same : (before ++ (name, value) :: after).lookup member.name =
      (before ++ after).lookup member.name := by
    simp [unknown member knows]
  rw [same]
  exact .same _

/-- A record grows by null for a missing member. -/
theorem grows_null (nullable : ∀ member ∈ known, member.name = name → member.isNullable = true)
    (missing : (before ++ after).lookup name = none) :
    Grows known (.record (before ++ after)) (.record (before ++ (name, .null) :: after)) := by
  refine .record fun member knows => ?_
  by_cases here : member.name = name
  · have added : (before ++ (name, .null) :: after).lookup name = some .null := by
      simp only [lookup_append, Option.or_eq_none_iff] at missing
      simp [missing.1]
    rw [here, missing, added]
    exact .nulled (nullable member knows here)
  · have same : (before ++ (name, .null) :: after).lookup member.name =
        (before ++ after).lookup member.name := by
      simp [here]
    rw [same]
    exact .same _

end Additions

/-- Values of one kind survive in JSON: what is written is read back, what has been read is read
again in the same way, and members that nobody knows and null for missing members do not count,
wherever they stand. -/
structure Survives (known : List Member) (write : α → Json) (read : Json → Option α)
    (admits : α → Prop) : Prop where
  restored : ∀ value, admits value → read (write value) = some value
  repeated : ∀ json value, read json = some value → admits value → read (write value) = some value
  unknown : ∀ before after name value, (∀ member ∈ known, member.name ≠ name) →
    read (.record (before ++ (name, value) :: after)) = read (.record (before ++ after))
  nulled : ∀ before after, ∀ member ∈ known, member.isNullable = true →
    (before ++ after).lookup member.name = none →
      read (.record (before ++ (member.name, .null) :: after)) = read (.record (before ++ after))
  grown : ∀ old new, Grows known old new → read new = read old

theorem survives {admits : α → Prop} (restores : ∀ value, admits value → Restores write read value)
    (overlooks : Overlooks read (Grows known))
    (distinct : ∀ first ∈ known, ∀ second ∈ known, first.name = second.name →
      first.isNullable = true → second.isNullable = true) :
    Survives known write read admits where
  restored value admitted := (restores value admitted).reads
  repeated _ value _ admitted := (restores value admitted).reads
  unknown _ _ _ value unknown := overlooks.reads (grows_unknown unknown value)
  nulled _ _ member knows nullable missing :=
    overlooks.reads <| grows_null (fun other known same =>
      distinct member knows other known same.symm nullable) missing
  grown _ _ grows := overlooks.reads grows

end Issuance.Json
