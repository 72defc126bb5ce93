import WaitingRoom.Cell
import WaitingRoom.Position

/-!
# Layouts

A layout is one generation of a waiting room: a rectangle of cells, stored row after row.

* **`Layout`**: the rectangle. There may be more stored cells than places; the surplus belongs to
  no position, but it is part of the value. `Layout.covers` says that there are never fewer.
* **Views.** `p ∈ g` says that the position lies inside, `Layout.cell?` reads a cell, and
  `Layout.spotAt`, `Layout.tallyAt` read its parts, with floor and zero outside the walls.
* **`Layout.modify`**, **`Layout.mapCells`**: the only ways in which a layout changes. The lemmas
  beside them say what each does to the views; sizes never change.
* **`Layout.positions`**: every place once, row by row.
* **`Layout.render`**: the printed plan, **`Layout.occupied`**: the number of taken seats,
  **`Layout.SameSpots`**: equality of what stands where, tallies left aside.
-/

namespace WaitingRoom

/-- One generation of a waiting room: `rows * cols` places, stored row after row. -/
structure Layout where
  /-- The number of rows. -/
  rows : Nat
  /-- The number of places in each row. -/
  cols : Nat
  /-- The cells of all places, row after row, then the surplus. -/
  cells : Array Cell
  /-- Every place has its cell. -/
  covers : rows * cols ≤ cells.size
deriving DecidableEq, Repr

namespace Layout

/-- Membership `p ∈ g`: the position lies inside the walls of `g`. -/
instance : Membership Position Layout where
  mem g p := p.row < g.rows ∧ p.col < g.cols

instance (p : Position) (g : Layout) : Decidable (p ∈ g) :=
  inferInstanceAs (Decidable (_ ∧ _))

/-- A position lies inside when its row and its column do. -/
theorem mem_iff {g : Layout} {p : Position} : p ∈ g ↔ p.row < g.rows ∧ p.col < g.cols := Iff.rfl

/-! ### Where a cell is stored -/

/-- The place of a position in the row-by-row order. -/
@[inline] def index (g : Layout) (p : Position) : Nat := p.row * g.cols + p.col

/-- The cell of a place comes before the surplus. -/
theorem index_lt_mul {g : Layout} {p : Position} (h : p ∈ g) : g.index p < g.rows * g.cols := by
  have hrow : (p.row + 1) * g.cols ≤ g.rows * g.cols := Nat.mul_le_mul_right _ h.1
  have hcol := h.2
  rw [Nat.add_mul, Nat.one_mul] at hrow
  unfold index
  omega

/-- Every place has a stored cell. -/
theorem index_lt_size {g : Layout} {p : Position} (h : p ∈ g) : g.index p < g.cells.size :=
  Nat.lt_of_lt_of_le (index_lt_mul h) g.covers

/-- No two places share a cell. -/
theorem index_inj {g : Layout} {p q : Position} (hp : p ∈ g) (hq : q ∈ g)
    (h : g.index p = g.index q) : p = q := by
  have hpos : 0 < g.cols := Nat.lt_of_le_of_lt (Nat.zero_le _) hp.2
  -- quotient and remainder by the width give back row and column
  have hrow : p.row = q.row := by
    have := congrArg (· / g.cols) h
    simpa [index, Nat.mul_comm _ g.cols, Nat.mul_add_div hpos, Nat.div_eq_of_lt hp.2,
      Nat.div_eq_of_lt hq.2] using this
  have hcol : p.col = q.col := by
    have := congrArg (· % g.cols) h
    simpa [index, Nat.mul_comm _ g.cols, Nat.mul_add_mod, Nat.mod_eq_of_lt hp.2,
      Nat.mod_eq_of_lt hq.2] using this
  exact Position.ext hrow hcol

/-! ### Reading -/

/-- The cell at a position, if the position lies inside. -/
@[inline] def cell? (g : Layout) (p : Position) : Option Cell :=
  if p ∈ g then g.cells[g.index p]? else none

/-- What stands at a position; outside the walls there is floor. -/
@[inline] def spotAt (g : Layout) (p : Position) : Spot :=
  match g.cell? p with
  | some c => c.spot
  | none => .floor

/-- The tally at a position; outside the walls nothing is tallied. -/
@[inline] def tallyAt (g : Layout) (p : Position) : Int :=
  match g.cell? p with
  | some c => c.tally
  | none => 0

/-- Whether there is a seat at the position. -/
@[inline] def isSeat (g : Layout) (p : Position) : Bool := (g.spotAt p).isSeat

/-- Whether somebody sits at the position. -/
@[inline] def isTaken (g : Layout) (p : Position) : Bool := (g.spotAt p).isTaken

/-- Inside the walls the cell is the stored one. -/
theorem cell?_of_mem {g : Layout} {p : Position} (h : p ∈ g) :
    g.cell? p = g.cells[g.index p]? := by
  simp [cell?, h]

/-- Outside there is none. -/
theorem cell?_of_not_mem {g : Layout} {p : Position} (h : p ∉ g) : g.cell? p = none := by
  simp [cell?, h]

/-- A position has a cell exactly when it lies inside. -/
theorem isSome_cell? {g : Layout} {p : Position} : (g.cell? p).isSome ↔ p ∈ g := by
  by_cases h : p ∈ g
  · simp [cell?_of_mem h, index_lt_size h, h]
  · simp [cell?_of_not_mem h, h]

/-- Seats are inside the walls. -/
theorem mem_of_isSeat {g : Layout} {p : Position} (h : g.isSeat p = true) : p ∈ g := by
  by_cases hp : p ∈ g
  · exact hp
  · simp [isSeat, spotAt, cell?_of_not_mem hp, Spot.isSeat] at h

/-- Whoever sits has a seat. -/
theorem isSeat_of_isTaken {g : Layout} {p : Position} (h : g.isTaken p = true) :
    g.isSeat p = true :=
  Spot.isSeat_of_isTaken h

/-! ### Changing cells -/

/-- The layout with the cell at a position changed; nothing happens outside the walls. -/
def modify (g : Layout) (p : Position) (f : Cell → Cell) : Layout :=
  if p ∈ g then
    { g with
      cells := g.cells.modify (g.index p) f
      covers := by rw [Array.size_modify]; exact g.covers }
  else g

/-- The layout with every stored cell changed, the surplus too. -/
def mapCells (g : Layout) (f : Cell → Cell) : Layout :=
  { g with
    cells := g.cells.map f
    covers := by rw [Array.size_map]; exact g.covers }

/-- The layout after somebody sat down at a position or left it. -/
def occupy (g : Layout) (p : Position) (occupied : Bool) : Layout :=
  g.modify p (Cell.occupy occupied)

/-- A change of a place adds no row. -/
@[simp] theorem rows_modify (g : Layout) (p : Position) (f : Cell → Cell) :
    (g.modify p f).rows = g.rows := by
  unfold modify; split <;> rfl

/-- Nor does it add a column. -/
@[simp] theorem cols_modify (g : Layout) (p : Position) (f : Cell → Cell) :
    (g.modify p f).cols = g.cols := by
  unfold modify; split <;> rfl

/-- It stores no further cell. -/
@[simp] theorem size_modify (g : Layout) (p : Position) (f : Cell → Cell) :
    (g.modify p f).cells.size = g.cells.size := by
  unfold modify; split <;> simp

/-- The same positions are inside afterwards. -/
@[simp] theorem mem_modify {g : Layout} {p q : Position} {f : Cell → Cell} :
    q ∈ g.modify p f ↔ q ∈ g := by
  simp [mem_iff]

/-- A change is seen at its own position only. -/
theorem cell?_modify (g : Layout) (p q : Position) (f : Cell → Cell) :
    (g.modify p f).cell? q = if q = p then (g.cell? p).map f else g.cell? q := by
  by_cases hq : q ∈ g
  · by_cases hp : p ∈ g
    · have hindex : (g.modify p f).index q = g.index q := by simp [index]
      rw [cell?, if_pos (mem_modify.2 hq), hindex]
      simp only [modify, if_pos hp, Array.getElem?_modify]
      by_cases h : q = p
      · subst h
        simp [cell?, hq]
      · have : g.index p ≠ g.index q := fun e => h (index_inj hq hp e.symm)
        simp [this, h, cell?, hq]
    · have h : q ≠ p := fun e => hp (e ▸ hq)
      simp [modify, hp, h]
  · rw [cell?_of_not_mem (fun h => hq (mem_modify.1 h)), cell?_of_not_mem hq]
    by_cases h : q = p
    · subst h
      simp [cell?_of_not_mem hq]
    · simp [h]

/-- A change of all stored cells adds no row. -/
@[simp] theorem rows_mapCells (g : Layout) (f : Cell → Cell) : (g.mapCells f).rows = g.rows := rfl

/-- Nor does it add a column. -/
@[simp] theorem cols_mapCells (g : Layout) (f : Cell → Cell) : (g.mapCells f).cols = g.cols := rfl

/-- It stores no further cell. -/
@[simp] theorem size_mapCells (g : Layout) (f : Cell → Cell) :
    (g.mapCells f).cells.size = g.cells.size := by
  simp [mapCells]

/-- The same positions are inside afterwards. -/
@[simp] theorem mem_mapCells {g : Layout} {q : Position} {f : Cell → Cell} :
    q ∈ g.mapCells f ↔ q ∈ g := Iff.rfl

/-- It is seen at every position. -/
@[simp] theorem cell?_mapCells (g : Layout) (p : Position) (f : Cell → Cell) :
    (g.mapCells f).cell? p = (g.cell? p).map f := by
  by_cases h : p ∈ g
  · have hindex : (g.mapCells f).index p = g.index p := rfl
    rw [cell?_of_mem h, cell?_of_mem (mem_mapCells.2 h), hindex]
    simp [mapCells]
  · simp [cell?, h]

/-! ### All places -/

/-- Every place of the layout, row by row. -/
def positions (g : Layout) : List Position :=
  (List.range g.rows).flatMap fun row => (List.range g.cols).map fun col => ⟨row, col⟩

/-- The list of places has the positions inside the walls. -/
@[simp] theorem mem_positions {g : Layout} {p : Position} : p ∈ g.positions ↔ p ∈ g := by
  cases p
  simp [positions, mem_iff]

/-- The layout with everybody seated, or everybody gone. -/
def occupyAll (g : Layout) (occupied : Bool) : Layout :=
  g.positions.foldl (fun h p => h.occupy p occupied) g

/-- The number of taken seats. -/
def occupied (g : Layout) : Nat := g.cells.countP fun c => c.spot.isTaken

/-- The number of seats, taken or not. -/
def seats (g : Layout) : Nat := g.cells.countP fun c => c.spot.isSeat

/-! ### Comparing and printing -/

/-- Two layouts show the same when they have the same size and, cell by cell, the same spots. Their
tallies may differ, and so may surplus cells of which the other layout has no counterpart. -/
def SameSpots (g h : Layout) : Prop :=
  g.rows = h.rows ∧ g.cols = h.cols ∧ (g.cells.zip h.cells).all (fun c => c.1.spot = c.2.spot)

instance (g h : Layout) : Decidable (g.SameSpots h) :=
  inferInstanceAs (Decidable (_ ∧ _ ∧ _))

/-- The marks of one row. -/
def renderRow (g : Layout) (row : Nat) : List Char :=
  (List.range g.cols).map fun col => (g.spotAt ⟨row, col⟩).mark

/-- The printed plan: each row on a line of its own. -/
def render (g : Layout) : String :=
  String.ofList ((List.range g.rows).flatMap fun row => g.renderRow row ++ ['\n'])

end Layout

end WaitingRoom
