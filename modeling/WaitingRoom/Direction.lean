/-!
# The eight directions of a plan

A plan is read like a page: row `0` is the northern wall and column `0` the western one, so rows
grow to the south and columns to the east.

* **`Direction`**: one of the eight ways to leave a place, straight or diagonal.
* **`Direction.all`**: the order in which they are always tried, row by row from the north-west.
* **`Direction.rowShift`, `Direction.colShift`**: what one step adds to the row and the column.
-/

namespace WaitingRoom

/-- One of the eight directions in which a place has a neighbour. -/
inductive Direction where
  | northWest
  | north
  | northEast
  | west
  | east
  | southWest
  | south
  | southEast
deriving DecidableEq, Repr

namespace Direction

/-- All directions in the order in which they are tried, row by row from the north-west. -/
def all : List Direction :=
  [northWest, north, northEast, west, east, southWest, south, southEast]

/-- The rows gained by one step, negative towards the northern wall. -/
def rowShift : Direction → Int
  | northWest | north | northEast => -1
  | west | east => 0
  | southWest | south | southEast => 1

/-- The columns gained by one step, negative towards the western wall. -/
def colShift : Direction → Int
  | northWest | west | southWest => -1
  | north | south => 0
  | northEast | east | southEast => 1

/-- The list of directions has them all. -/
@[simp] theorem mem_all (d : Direction) : d ∈ all := by
  cases d <;> decide

/-- It has none of them twice. -/
theorem nodup_all : all.Nodup := by
  decide

end Direction

end WaitingRoom
