import WaitingRoom.Direction

/-!
# Positions

A position is a row and a column, both counted from zero. It need not lie inside any layout.

* **`Position.toward`**: the next position in a direction, absent beyond the northern and western
  walls. It is exact arithmetic, and `Position.toward_eq_some_iff` says all there is to say of it.
* **`Position.step`**: the same with coordinates held in machine words. The walls are looked at
  first; only a step that passes them can run out of numbers, which is an `Overflow`.
-/

namespace WaitingRoom

/-- A place by its row and column, counted from zero. -/
@[ext] structure Position where
  /-- The row, growing to the south. -/
  row : Nat
  /-- The column, growing to the east. -/
  col : Nat
deriving DecidableEq, Repr

instance : ToString Position where
  toString p := s!"({p.row}, {p.col})"

/-- What has left the numbers of the machine. -/
inductive Overflow where
  /-- A coordinate above `Position.maxCoordinate`. -/
  | coordinate
  /-- A tally outside the signed words. -/
  | tally
  /-- A number of changes or of ticks above `Position.maxCoordinate`. -/
  | counter
  /-- The index of a buffer below zero. -/
  | index
deriving DecidableEq, Repr

/-- The wording of an overflow: the same for all sums, and another one for a difference. -/
def Overflow.message : Overflow → String
  | coordinate | tally | counter => "attempt to add with overflow"
  | index => "attempt to subtract with overflow"

namespace Position

/-- The position one step away, or `none` if a coordinate would fall below zero. -/
def toward (p : Position) (d : Direction) : Option Position :=
  match p.row + d.rowShift, p.col + d.colShift with
  | .ofNat row, .ofNat col => some ⟨row, col⟩
  | _, _ => none

/-- A step adds the shifts of its direction, and exists whenever the sums are coordinates. -/
theorem toward_eq_some_iff {p q : Position} {d : Direction} :
    p.toward d = some q ↔
      (q.row : Int) = p.row + d.rowShift ∧ (q.col : Int) = p.col + d.colShift := by
  unfold toward
  split
  · next row col hr hc =>
    simp only [Option.some.injEq, Position.ext_iff, hr, hc, Int.ofNat_eq_natCast, Int.natCast_inj,
      eq_comm]
  · next h =>
    simp only [reduceCtorEq, false_iff]
    rintro ⟨hr, hc⟩
    exact h q.row q.col hr.symm hc.symm

/-- The largest coordinate that a machine word holds. -/
def maxCoordinate : Nat := 0xffffffffffffffff

/-- A position is representable when both coordinates fit a machine word. -/
def Representable (p : Position) : Prop :=
  p.row ≤ maxCoordinate ∧ p.col ≤ maxCoordinate

instance (p : Position) : Decidable p.Representable :=
  inferInstanceAs (Decidable (_ ∧ _))

/-- The position one step away in machine words: absent beyond the northern and western walls,
and an overflow when a coordinate has no successor. -/
def step (p : Position) (d : Direction) : Except Overflow (Option Position) :=
  match p.toward d with
  | none => .ok none
  | some q => if q.Representable then .ok (some q) else .error .coordinate

/-- Walks along the directions, one after another. The list holds the position after each step,
and `none` from the first step that leaves the plan on. -/
def walk (p : Position) : List Direction → Except Overflow (List (Option Position))
  | [] => .ok []
  | d :: ds => do
    match ← p.step d with
    | none => return List.replicate (ds.length + 1) none
    | some q => return some q :: (← q.walk ds)

end Position

end WaitingRoom
