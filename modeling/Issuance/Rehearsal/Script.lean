namespace Issuance.Rehearsal

/-- A script answers in order, and its last answer repeats. -/
structure Script (α : Type) where
  answers : List α := []
  deriving Repr, Inhabited

namespace Script

/-- The answer that is due, if there is one, and the script after it. -/
def next (script : Script α) : Option α × Script α :=
  match script.answers with
  | [] => (none, script)
  | [answer] => (some answer, script)
  | answer :: answers => (some answer, ⟨answers⟩)

end Script

end Issuance.Rehearsal
