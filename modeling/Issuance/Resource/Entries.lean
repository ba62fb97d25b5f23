namespace Issuance.Entries

variable {κ α : Type} [DecidableEq κ]

/-- A value is replaced where it stands, and a new one comes last. -/
def set (key : κ) (value : α) : List (κ × α) → List (κ × α)
  | [] => [(key, value)]
  | entry :: entries =>
    if entry.1 = key then (key, value) :: entries else entry :: set key value entries

/-- A value changes where it stands, and nothing happens without one. -/
def adjust (key : κ) (change : α → α) (entries : List (κ × α)) : List (κ × α) :=
  entries.map fun entry => if entry.1 = key then (entry.1, change entry.2) else entry

/-- A key loses its value. -/
def remove (key : κ) (entries : List (κ × α)) : List (κ × α) :=
  entries.filter fun entry => entry.1 ≠ key

end Issuance.Entries
