import Issuance.Authority.Failure

namespace Issuance

/-- The results are just the values that fit, and every failure is one of configuration. -/
structure Checks {α : Type} (fits : α → Prop) (result : Except ProvisionerFailure α) : Prop where
  ok_iff : ∀ value, result = .ok value ↔ fits value
  blames : ∀ failure, result = .error failure → ∃ reason, failure = .configuration reason

namespace Checks

variable {α β : Type} {fits others : α → Prop} {ends : α → β → Prop} {value other : α}
  {result : Except ProvisionerFailure α} {next : α → Except ProvisionerFailure β}

theorem of_ok (same : ∀ other, value = other ↔ fits other) : Checks fits (.ok value) :=
  ⟨fun other => (Except.ok.injEq value other).to_iff.trans (same other), nofun⟩

theorem of_configuration (reason : String) (unfit : ∀ value, ¬fits value) :
    Checks fits (.error (.configuration reason)) := by
  refine ⟨fun value => iff_of_false nofun (unfit value), ?_⟩
  rintro failure ⟨⟩
  exact ⟨reason, rfl⟩

theorem congr (checks : Checks fits result) (same : ∀ value, fits value ↔ others value) :
    Checks others result :=
  ⟨fun value => (checks.ok_iff value).trans (same value), checks.blames⟩

/-- A check lets a value through, or nothing fits. -/
theorem passes_or_blames (checks : Checks fits result) :
    (∃ value, result = .ok value ∧ fits value) ∨
      (∃ reason, result = .error (.configuration reason)) ∧ ∀ value, ¬fits value := by
  cases result with
  | ok value => exact .inl ⟨value, rfl, (checks.ok_iff value).mp rfl⟩
  | error failure =>
    obtain ⟨reason, rfl⟩ := checks.blames failure rfl
    exact .inr ⟨⟨reason, rfl⟩, fun value fit => nomatch (checks.ok_iff value).mpr fit⟩

/-- No two values fit. -/
theorem unique (checks : Checks fits result) (first : fits value) (second : fits other) :
    value = other :=
  Except.ok.inj (((checks.ok_iff value).mpr first).symm.trans ((checks.ok_iff other).mpr second))

/-- A check after another one lets through what passes both. -/
theorem bind (first : Checks fits result)
    (second : ∀ value, fits value → Checks (ends value) (next value)) :
    Checks (fun last => ∃ value, fits value ∧ ends value last) (result.bind next) := by
  obtain ⟨value, rfl, passes⟩ | ⟨⟨reason, rfl⟩, unfit⟩ := first.passes_or_blames
  · refine (second value passes).congr fun last => ⟨fun ended => ⟨value, passes, ended⟩, ?_⟩
    rintro ⟨other, fit, ended⟩
    obtain rfl := first.unique passes fit
    exact ended
  · refine of_configuration reason fun last => ?_
    rintro ⟨value, fit, _⟩
    exact unfit value fit

theorem map (checks : Checks fits result) (change : α → β) :
    Checks (fun last => ∃ value, fits value ∧ change value = last) (result.map change) :=
  checks.bind fun _ _ => of_ok fun _ => Iff.rfl

end Checks

end Issuance
