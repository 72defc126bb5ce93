import WaitingRoom.Layout.Adjacency

/-!
# Seats in sight

* **`Layout.firstSeat?`**: the first seat seen from a position in a direction. Floor is looked
  across, and the walls end the view.
* **`Layout.sighted`**: the seats seen in the eight directions.

The walk ends because each step inside the walls uses up `Layout.room`, the rows or columns that
are left between the position and the wall ahead.
-/

namespace WaitingRoom.Layout

/-- The rows, or else the columns, left between a position and the wall in a direction. -/
def room (g : Layout) (d : Direction) (p : Position) : Nat :=
  match d with
  | .northWest | .north | .northEast => p.row
  | .west => p.col
  | .east => g.cols - p.col
  | .southWest | .south | .southEast => g.rows - p.row

/-- A step that stays inside the walls uses up room. -/
theorem room_lt_room {g : Layout} {d : Direction} {p q : Position} (h : p.toward d = some q)
    (hq : q ∈ g) : g.room d q < g.room d p := by
  obtain ⟨hrow, hcol⟩ := Position.toward_eq_some_iff.1 h
  obtain ⟨hrows, hcols⟩ := hq
  cases d <;> simp only [Direction.rowShift, Direction.colShift] at hrow hcol <;>
    simp only [room] <;> omega

/-- The first seat seen from a position in a direction. -/
def firstSeat? (g : Layout) (d : Direction) (p : Position) : Option Position :=
  match h : p.toward d with
  | none => none
  | some q =>
    if hq : q ∈ g then
      have := room_lt_room h hq
      if g.isSeat q then some q else g.firstSeat? d q
    else none
termination_by g.room d p

/-- The seats seen from a position, one at most in each direction. -/
def sighted (g : Layout) (p : Position) : List Position :=
  Direction.all.filterMap fun d => g.firstSeat? d p

end WaitingRoom.Layout
