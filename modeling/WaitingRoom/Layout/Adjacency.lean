import WaitingRoom.Layout.Basic

/-!
# The places around a position

* **`Layout.adjacent`**: the up to eight places around a position, clipped at the walls, in the
  order of `Direction.all`. The position itself need not lie inside.
* **`Layout.occupiedAmong`**: how many of some places are taken; a place named twice counts twice.
* **`Layout.adjacentOccupied`**: how many of the places around a position are taken.
-/

namespace WaitingRoom.Layout

/-- The places around a position, clipped at the walls. -/
def adjacent (g : Layout) (p : Position) : List Position :=
  (Direction.all.filterMap p.toward).filter (· ∈ g)

/-- A place is around a position when one step leads there. -/
theorem mem_adjacent {g : Layout} {p q : Position} :
    q ∈ g.adjacent p ↔ q ∈ g ∧ ∃ d, p.toward d = some q := by
  simp [adjacent, and_comm]

/-- How many of the places are taken. -/
def occupiedAmong (g : Layout) (places : List Position) : Nat :=
  places.countP g.isTaken

/-- How many of the places around a position are taken. -/
def adjacentOccupied (g : Layout) (p : Position) : Nat :=
  g.occupiedAmong (g.adjacent p)

end WaitingRoom.Layout
