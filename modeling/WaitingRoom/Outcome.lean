import WaitingRoom.Simulation

/-!
# Outcomes

* **`Outcome`**: a room at rest and how it got there, with its text.
* **`Event`**: what is worth logging on the way.
* **`Layout.settle`**: runs a layout under the rule of a mode until nobody moves.
-/

namespace WaitingRoom

/-- A layout that has come to rest. -/
structure Outcome where
  /-- The layout. -/
  layout : Layout
  /-- The mode under which nobody moves any more. -/
  mode : Mode
  /-- The number of ticks that changed something. -/
  ticks : Nat

namespace Outcome

/-- The number of taken seats. -/
def occupied (o : Outcome) : Nat := o.layout.occupied

/-- The printed plan, an empty line and the number of taken seats. -/
def text (o : Outcome) : String :=
  s!"{o.layout.render}\nOccupied seats: {o.occupied}"

end Outcome

/-- What happens while a layout comes to rest. -/
inductive Event where
  /-- A tick was made. -/
  | tickDone (record : TickRecord)
  /-- Nobody moves any more. -/
  | settled (mode : Mode) (ticks occupied : Nat)
deriving DecidableEq, Repr

/-- Lets people sit down and leave until nobody moves. The events come in the order in which they
happen; there is no result if people never stop moving. -/
def Layout.settle (g : Layout) (mode : Mode) : Option (Outcome × List Event) :=
  (Simulation.start mode.rule g).run.map fun run =>
    let outcome : Outcome := { layout := run.final.intoLayout, mode, ticks := run.ticks }
    (outcome, run.records.map .tickDone ++ [.settled mode outcome.ticks outcome.occupied])

end WaitingRoom
