import Issuance.Rehearsal.World

namespace Issuance.Rehearsal

/-- A caller is finished, or it waits with the rest of its program. -/
inductive Progress (α : Type) where
  | finished (value : α)
  | blocked (program : Program α)

namespace Progress

def value? : Progress α → Option α
  | finished value => some value
  | blocked _ => none

end Progress

namespace World

/-- A program runs until it is finished or has to wait. -/
def run (world : World) : Program α → Progress α × World
  | .pure value => (.finished value, world)
  | .perform effect next =>
    match world.answer effect with
    | .answered answer world => run world (next answer)
    | .waiting world => (.blocked (.perform effect next), world)

def turn (world : World) : Progress α → Progress α × World
  | .finished value => (.finished value, world)
  | .blocked program => world.run program

/-- Every caller takes its turn, in order. -/
def round (world : World) : List (Progress α) → List (Progress α) × World
  | [] => ([], world)
  | caller :: callers =>
    let (caller, world) := world.turn caller
    let (callers, world) := world.round callers
    (caller :: callers, world)

def rounds (world : World) : Nat → List (Progress α) → List (Progress α) × World
  | 0, callers => (callers, world)
  | count + 1, callers =>
    let (callers, world) := world.round callers
    world.rounds count callers

/-- Every round before the last one brings a build forward or a caller to its end. -/
def roundLimit (world : World) (callers : Nat) : Nat := callers * (world.turns + 2) + 1

/-- All callers run to their ends. -/
def runAll (world : World) (programs : List (Program α)) : List (Option α) × World :=
  let (callers, world) :=
    world.rounds (world.roundLimit programs.length) (programs.map Progress.blocked)
  (callers.map Progress.value?, world)

def runOne (world : World) (program : Program α) : Option α × World :=
  let (values, world) := world.runAll [program]
  (values.head?.join, world)

end World

end Issuance.Rehearsal
