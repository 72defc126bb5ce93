import WaitingRoom.Layout.Adjacency

/-!
# Tallies

Each cell has room for a tally of the taken seats around it. Kept up to date, it spares a rule the
counting: when somebody sits down or leaves, only the seats around have to be told.

* **`Layout.cached`**: what a reader gets, never below zero and zero outside the walls.
* **`Layout.carryFrom`**: adds the count of the same place in another layout.
* **`Layout.announce`**: tells the seats around a place that somebody sat down or left there.
* **`Layout.clearTallies`**, **`Layout.recount`**: forget all tallies, and count all seats afresh.
* **`Layout.TalliesAgree`**: every seat reads what counting would give.

Carrying and announcing only add, so a generation's tallies come out the same in whatever order
they happen, as long as all tallies were zero before.
-/

namespace WaitingRoom.Layout

/-- The count kept at a place: zero for a negative tally and outside the walls. -/
@[inline] def cached (g : Layout) (p : Position) : Nat := (g.tallyAt p).toNat

/-- The counts kept at all places, row by row. -/
def counts (g : Layout) : List (List Nat) :=
  (List.range g.rows).map fun row => (List.range g.cols).map fun col => g.cached ⟨row, col⟩

/-- The layout with the count that `source` keeps at a place added to the tally there. -/
def carryFrom (g source : Layout) (p : Position) : Layout :=
  g.modify p (Cell.credit (source.cached p))

/-- What somebody sitting down (`true`) or leaving (`false`) adds to the tallies around. -/
def change (occupied : Bool) : Int := if occupied then 1 else -1

/-- The layout after the seats around a place were told that somebody sat down or left there. -/
def announce (g : Layout) (p : Position) (occupied : Bool) : Layout :=
  (g.adjacent p).foldl (fun h q => h.modify q (Cell.creditSeat (change occupied))) g

/-- The layout with no tallies, the surplus cells included. -/
def clearTallies (g : Layout) : Layout := g.mapCells Cell.clear

/-- The layout with the tallies of all seats counted afresh, and no other tallies. -/
def recount (g : Layout) : Layout :=
  g.positions.foldl (fun h p => h.modify p (Cell.creditSeat (g.adjacentOccupied p))) g.clearTallies

/-- The tallies agree with the layout when every seat reads what counting would give. -/
def TalliesAgree (g : Layout) : Prop :=
  ∀ p ∈ g.positions, g.isSeat p = true → g.cached p = g.adjacentOccupied p

instance (g : Layout) : Decidable g.TalliesAgree :=
  inferInstanceAs (Decidable (∀ _ ∈ _, _ → _))

end WaitingRoom.Layout
