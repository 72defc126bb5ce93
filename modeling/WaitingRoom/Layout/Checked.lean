import WaitingRoom.Layout.Tally
import WaitingRoom.Mode

/-!
# Looking around with machine words

The functions here do the work of their exact namesakes for any position, inside the walls or not,
in numbers of the machine: coordinates up to `Position.maxCoordinate`, tallies in signed words.
Directions are tried in order, and the first sum without a value ends the work with an `Overflow`.

* **`Layout.checkedAdjacent`**, **`Layout.checkedSighted`**, **`Mode.checkedOccupied`**: the
  neighbours of a position and the number of taken ones.
* **`Layout.checkedCarryFrom`**: carries a count unless the tally overflows.
* **`Layout.checkedAnnounce`**: announces until a step or a tally overflows. What was told before
  stays told.
-/

namespace WaitingRoom

/-- A tally is representable when it fits a signed machine word. -/
def RepresentableTally (n : Int) : Prop := -0x8000000000000000 ≤ n ∧ n < 0x8000000000000000

instance (n : Int) : Decidable (RepresentableTally n) :=
  inferInstanceAs (Decidable (_ ∧ _))

/-- A step in machine words leads where the exact step does. -/
theorem Position.toward_of_step {p q : Position} {d : Direction} (h : p.step d = .ok (some q)) :
    p.toward d = some q := by
  unfold step at h
  split at h
  · simp at h
  · next hq => split at h <;> simp_all

namespace Layout

/-- The places around a position. -/
def checkedAdjacent (g : Layout) (p : Position) : Except Overflow (List Position) :=
  (·.filter (· ∈ g)) <$> Direction.all.filterMapM p.step

/-- The first seat seen from a position in a direction. -/
def checkedFirstSeat (g : Layout) (d : Direction) (p : Position) :
    Except Overflow (Option Position) :=
  match h : p.step d with
  | .error e => .error e
  | .ok none => .ok none
  | .ok (some q) =>
    if hq : q ∈ g then
      have := room_lt_room (Position.toward_of_step h) hq
      if g.isSeat q then .ok (some q) else g.checkedFirstSeat d q
    else .ok none
termination_by g.room d p

/-- The seats seen from a position. -/
def checkedSighted (g : Layout) (p : Position) : Except Overflow (List Position) :=
  Direction.all.filterMapM fun d => g.checkedFirstSeat d p

/-- The layout with the count of `source` at a place added to the tally there. -/
def checkedCarryFrom (g source : Layout) (p : Position) : Except Overflow Layout :=
  if p ∈ g ∧ ¬RepresentableTally (g.tallyAt p + source.cached p) then .error .tally
  else .ok (g.carryFrom source p)

/-- Tells the seats one step away in the given directions, and how the telling ended. -/
def checkedAnnounceAlong (g : Layout) (p : Position) (occupied : Bool) :
    List Direction → Layout × Except Overflow Unit
  | [] => (g, .ok ())
  | d :: ds =>
    match p.step d with
    | .error e => (g, .error e)
    | .ok none => g.checkedAnnounceAlong p occupied ds
    | .ok (some q) =>
      if g.isSeat q ∧ ¬RepresentableTally (g.tallyAt q + change occupied) then (g, .error .tally)
      else
        (g.modify q (Cell.creditSeat (change occupied))).checkedAnnounceAlong p occupied ds

/-- Tells the seats around a place that somebody sat down or left there, and how that ended. -/
def checkedAnnounce (g : Layout) (p : Position) (occupied : Bool) : Layout × Except Overflow Unit :=
  g.checkedAnnounceAlong p occupied Direction.all

end Layout

/-- How many of the places that count for a position are taken. -/
def Mode.checkedOccupied (m : Mode) (g : Layout) (p : Position) : Except Overflow Nat :=
  g.occupiedAmong <$>
    match m with
    | adjacent => g.checkedAdjacent p
    | visible => g.checkedSighted p

end WaitingRoom
