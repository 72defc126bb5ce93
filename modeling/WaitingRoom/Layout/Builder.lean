import WaitingRoom.Layout.Basic
import WaitingRoom.Text.Lines

/-!
# Building a layout row by row

A plan is a list of rows of marks, all of one length.

* **`RowError`**: why a row is refused, with its wording.
* **`Layout.rowFault?`**: the first thing wrong with a row offered to a layout, its length before
  its marks.
* **`Layout.pushRow`**: what a row leaves in a layout. An accepted row adds its cells and is
  counted. A row of the wrong length adds nothing. A row with a bad mark adds the cells before
  that mark and is not counted, so the rows after it are shifted, and the last cells are surplus.
* **`Builder`**: the layout so far. The first row offered fixes the width, accepted or not.
* **`Layout.ofRows`**, **`Layout.ofLines`**, **`Layout.ofText`**: the strict readers, which stop at
  the first refused row.
-/

namespace WaitingRoom

/-- Why a row of a plan is refused. -/
inductive RowError where
  /-- The row has another length than the first one. -/
  | length (found expected : Nat)
  /-- A character is no mark of a plan. -/
  | mark (c : Char)
deriving DecidableEq, Repr

/-- The wording of a refusal. -/
def RowError.message : RowError → String
  | length found expected =>
    s!"Given row({found} elements), expect row which have {expected} elements."
  | mark c => s!"Invalid character({c}) for seat"

/-- The first character of a row that is no mark of a plan. -/
def badMark? (row : List Char) : Option Char :=
  row.find? fun c => (Spot.ofMark? c).isNone

/-- The cells of a row up to its first bad mark. -/
def readableCells : List Char → List Cell
  | [] => []
  | c :: rest =>
    match Spot.ofMark? c with
    | some spot => { spot } :: readableCells rest
    | none => []

/-- A row without a bad mark is readable to its end. -/
theorem length_readableCells {row : List Char} (h : badMark? row = none) :
    (readableCells row).length = row.length := by
  induction row with
  | nil => rfl
  | cons c rest ih =>
    rw [badMark?, List.find?_cons] at h
    split at h
    · contradiction
    · next hc =>
      obtain ⟨spot, hs⟩ := Option.isSome_iff_exists.1 (by simpa using hc)
      simp [readableCells, hs, ih h]

namespace Layout

/-- The layout of the given width that has no row yet. -/
def ofWidth (cols : Nat) : Layout where
  rows := 0
  cols := cols
  cells := #[]
  covers := by simp

/-- What is wrong with a row offered to the layout: its length first, then its first bad mark. -/
def rowFault? (g : Layout) (row : List Char) : Option RowError :=
  if row.length = g.cols then (badMark? row).map .mark
  else some (.length row.length g.cols)

/-- An accepted row has the width of the layout, and all of it is readable. -/
theorem length_readableCells_of_rowFault? {g : Layout} {row : List Char}
    (h : g.rowFault? row = none) : (readableCells row).length = g.cols := by
  unfold rowFault? at h
  split at h
  · next hlen => rw [length_readableCells (by simpa using h), hlen]
  · contradiction

/-- The layout after a row was offered, accepted or not. -/
def pushRow (g : Layout) (row : List Char) : Layout :=
  match h : g.rowFault? row with
  | none =>
    { g with
      rows := g.rows + 1
      cells := g.cells ++ (readableCells row).toArray
      covers := by
        have hlen := length_readableCells_of_rowFault? h
        have hcovers := g.covers
        simp only [Array.size_append, List.size_toArray, Nat.add_mul, Nat.one_mul]
        omega }
  | some (.mark _) =>
    { g with
      cells := g.cells ++ (readableCells row).toArray
      covers := by
        have hcovers := g.covers
        simp only [Array.size_append]
        omega }
  | some (.length _ _) => g

end Layout

/-- The rows of a plan taken so far. -/
structure Builder where
  /-- The layout so far, once a first row has fixed its width. -/
  soFar : Option Layout := none

namespace Builder

/-- The layout to which the next row is offered. -/
def forRow (b : Builder) (row : List Char) : Layout :=
  b.soFar.getD (.ofWidth row.length)

/-- What is wrong with the next row. -/
def fault? (b : Builder) (row : List Char) : Option RowError :=
  (b.forRow row).rowFault? row

/-- The builder after a row was offered, accepted or not. -/
def push (b : Builder) (row : List Char) : Builder where
  soFar := some ((b.forRow row).pushRow row)

/-- The builder with one more row, if nothing is wrong with it. -/
def extend (b : Builder) (row : List Char) : Except RowError Builder :=
  match b.fault? row with
  | none => .ok (b.push row)
  | some e => .error e

/-- The layout of the rows taken. -/
def build (b : Builder) : Layout :=
  b.soFar.getD (.ofWidth 0)

end Builder

namespace Layout

/-- Reads a plan given by its rows, or tells what is wrong with the first refused row. -/
def ofRows (rows : List (List Char)) : Except RowError Layout :=
  Builder.build <$> rows.foldlM Builder.extend {}

/-- Reads a plan given by its lines. -/
def ofLines (lines : List String) : Except RowError Layout :=
  ofRows (lines.map String.toList)

/-- Reads a plan from a text. -/
def ofText (text : String) : Except RowError Layout :=
  ofRows (Text.charLines text)

end Layout

end WaitingRoom
