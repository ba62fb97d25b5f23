import Issuance.Reconcile.Effect

namespace Issuance

/-- An effect with the answer that it got. -/
structure Observation where
  effect : Effect
  answer : effect.Answer

namespace Program

/-- The program ends with a value after these observations. -/
inductive Returns {α : Type} : Program α → List Observation → α → Prop where
  | pure (value : α) : Returns (.pure value) [] value
  | perform {effect : Effect} {next : effect.Answer → Program α} {trace : List Observation}
      {value : α} (answer : effect.Answer) (rest : Returns (next answer) trace value) :
      Returns (.perform effect next) (⟨effect, answer⟩ :: trace) value

/-- Each effect is permitted after what was observed before it. -/
inductive Meets {α : Type} (permits : List Observation → Effect → Prop) :
    Program α → List Observation → Prop where
  | pure (value : α) (observed : List Observation) : Meets permits (.pure value) observed
  | perform {effect : Effect} {next : effect.Answer → Program α} {observed : List Observation}
      (permitted : permits observed effect)
      (rest : ∀ answer, Meets permits (next answer) (observed ++ [⟨effect, answer⟩])) :
      Meets permits (.perform effect next) observed

variable {α β : Type}

@[simp] theorem pure_eq (value : α) : (Pure.pure value : Program α) = .pure value := rfl

@[simp] theorem ask_eq (effect : Effect) : ask effect = .perform effect .pure := rfl

@[simp] theorem pure_bind (value : α) (continuation : α → Program β) :
    (Program.pure value >>= continuation) = continuation value := rfl

@[simp] theorem perform_bind (effect : Effect) (next : effect.Answer → Program α)
    (continuation : α → Program β) :
    (Program.perform effect next >>= continuation) =
      .perform effect fun answer => next answer >>= continuation := rfl

@[simp] theorem returns_pure {value result : α} {trace : List Observation} :
    (Program.pure value).Returns trace result ↔ trace = [] ∧ result = value := by
  constructor
  · intro returned
    cases returned
    exact ⟨rfl, rfl⟩
  · rintro ⟨rfl, rfl⟩
    exact .pure _

@[simp] theorem returns_perform {effect : Effect} {next : effect.Answer → Program α}
    {trace : List Observation} {value : α} :
    (Program.perform effect next).Returns trace value ↔
      ∃ answer rest, trace = ⟨effect, answer⟩ :: rest ∧ (next answer).Returns rest value := by
  constructor
  · intro returned
    cases returned with
    | perform answer rest => exact ⟨answer, _, rfl, rest⟩
  · rintro ⟨answer, _, rfl, rest⟩
    exact .perform answer rest

/-- A sequence observes what its parts observe, one after the other. -/
theorem returns_bind {program : Program α} {continuation : α → Program β}
    {trace : List Observation} {value : β} :
    (program >>= continuation).Returns trace value ↔
      ∃ first middle second, trace = first ++ second ∧ program.Returns first middle ∧
        (continuation middle).Returns second value := by
  change (program.andThen continuation).Returns trace value ↔ _
  induction program generalizing trace with
  | pure middle =>
      constructor
      · intro returned
        exact ⟨[], middle, trace, rfl, .pure middle, returned⟩
      · rintro ⟨first, _, second, rfl, ended, returned⟩
        cases ended
        exact returned
  | perform effect next ih =>
      constructor
      · intro returned
        cases returned with
        | perform answer rest =>
          obtain ⟨first, middle, second, rfl, ended, continued⟩ := (ih answer).mp rest
          exact ⟨⟨effect, answer⟩ :: first, middle, second, rfl, .perform answer ended, continued⟩
      · rintro ⟨first, middle, second, rfl, ended, continued⟩
        cases ended with
        | perform answer rest =>
          exact .perform answer ((ih answer).mpr ⟨_, middle, second, rfl, rest, continued⟩)

/-- A sequence keeps to what is permitted when its second part does after all that the first part
may observe. -/
theorem Meets.bind {permits : List Observation → Effect → Prop} {program : Program α}
    {continuation : α → Program β} {observed : List Observation}
    (met : program.Meets permits observed)
    (continued : ∀ trace value, program.Returns trace value →
      (continuation value).Meets permits (observed ++ trace)) :
    (program >>= continuation).Meets permits observed := by
  change (program.andThen continuation).Meets permits observed
  induction met with
  | pure value observed =>
      have ended := continued [] value (.pure value)
      rwa [List.append_nil] at ended
  | perform permitted rest ih =>
      refine .perform permitted fun answer => ih answer fun trace value returned => ?_
      have later := continued (⟨_, answer⟩ :: trace) value (.perform answer returned)
      rwa [List.append_cons] at later

end Program

end Issuance
