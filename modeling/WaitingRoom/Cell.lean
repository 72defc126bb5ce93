/-!
# Cells

* **`Flags`**: whether a place has a seat and whether it is taken, as two flags that do not know of
  each other. **`Flags.occupy`** takes the wish of somebody to sit down or to leave; its guard is
  what keeps people off the floor (`Flags.orderly_occupy`), whatever the flags were before.
* **`Spot`**: flags of which that is known. There are three of them (`Spot.floor`, `Spot.free`,
  `Spot.taken`), and `cases` splits on these.
* **`Spot.mark`, `Spot.ofMark?`**: the characters of the printed plan. Only floor and free seats
  can be read back: a plan is read before anybody sits down.
* **`Cell`**: a spot with its tally, the number of taken seats around it as far as it is known. The
  tally is signed because corrections may arrive before the number that they correct; readers
  see `Cell.count`, where a negative tally counts as none.
-/

namespace WaitingRoom

/-- What is kept about a place besides its tally. -/
@[ext] structure Flags where
  /-- There is a seat. -/
  present : Bool
  /-- Somebody sits there. -/
  occupied : Bool
deriving DecidableEq, Repr

namespace Flags

/-- Nobody sits where there is no seat. -/
def Orderly (f : Flags) : Prop := f.occupied = true → f.present = true

instance (f : Flags) : Decidable f.Orderly := inferInstanceAs (Decidable (_ → _))

/-- The flags after somebody sat down (`true`) or left (`false`). Where there is no seat, nobody sits
afterwards in either case. -/
def occupy (occupied : Bool) (f : Flags) : Flags :=
  { f with occupied := f.present && occupied }

/-- The guard alone makes for order: nothing is asked of the flags before. -/
theorem orderly_occupy (b : Bool) (f : Flags) : (f.occupy b).Orderly := by
  intro h
  exact (Bool.and_eq_true_iff.1 h).1

/-- In order, an unset floor flag decides the other one. -/
theorem Orderly.occupied_eq_false {f : Flags} (hf : f.Orderly) (hfloor : f.present = false) :
    f.occupied = false := by
  cases hoccupied : f.occupied with
  | false => rfl
  | true => exact absurd (hf hoccupied) (by rw [hfloor]; exact Bool.false_ne_true)

end Flags

/-- What stands at a place of the plan: flags in order. -/
@[ext] structure Spot extends Flags where
  /-- Whoever sits there has a seat. -/
  orderly : toFlags.Orderly
deriving DecidableEq, Repr

namespace Spot

/-- Open floor, which nobody sits on. -/
def floor : Spot where
  present := false
  occupied := false
  orderly := id

/-- A seat that nobody sits on. -/
def free : Spot where
  present := true
  occupied := false
  orderly := fun _ => rfl

/-- A seat with somebody on it. -/
def taken : Spot where
  present := true
  occupied := true
  orderly := id

/-- There are no other spots: the fourth pair of flags is out of order. -/
@[cases_eliminator]
theorem byKind {motive : Spot → Prop} (floor : motive .floor) (free : motive .free)
    (taken : motive .taken) : ∀ s, motive s
  | ⟨⟨false, false⟩, _⟩ => floor
  | ⟨⟨true, false⟩, _⟩ => free
  | ⟨⟨true, true⟩, _⟩ => taken
  | ⟨⟨false, true⟩, h⟩ => absurd (h rfl) Bool.false_ne_true

/-- Whether there is a seat, taken or not. -/
def isSeat (s : Spot) : Bool := s.present

/-- Whether somebody sits there. -/
def isTaken (s : Spot) : Bool := s.occupied

/-- The spot after somebody sat down (`true`) or left (`false`). -/
def occupy (occupied : Bool) (s : Spot) : Spot where
  toFlags := s.toFlags.occupy occupied
  orderly := s.toFlags.orderly_occupy occupied

/-- The character of the printed plan. -/
def mark (s : Spot) : Char :=
  match s.present, s.occupied with
  | false, _ => '.'
  | true, true => '#'
  | true, false => 'L'

/-- The spot that a character of a plan stands for. -/
def ofMark? (c : Char) : Option Spot :=
  if c = 'L' then some free else if c = '.' then some floor else none

@[simp] theorem present_floor : floor.present = false := rfl

@[simp] theorem occupied_floor : floor.occupied = false := rfl

@[simp] theorem present_free : free.present = true := rfl

@[simp] theorem occupied_free : free.occupied = false := rfl

@[simp] theorem present_taken : taken.present = true := rfl

@[simp] theorem occupied_taken : taken.occupied = true := rfl

/-- Floor stays floor. -/
@[simp] theorem occupy_floor (b : Bool) : floor.occupy b = floor := rfl

/-- Sitting down and leaving move no seat. -/
@[simp] theorem isSeat_occupy (b : Bool) (s : Spot) : (s.occupy b).isSeat = s.isSeat := rfl

/-- Only a seat can be taken. -/
@[simp] theorem isTaken_occupy (b : Bool) (s : Spot) :
    (s.occupy b).isTaken = (s.isSeat && b) := rfl

/-- Whoever sits has a seat. -/
theorem isSeat_of_isTaken {s : Spot} (h : s.isTaken = true) : s.isSeat = true :=
  s.orderly h

/-- The two flags tell all spots apart. -/
theorem eq_of_flags {s t : Spot} (hseat : s.isSeat = t.isSeat) (htaken : s.isTaken = t.isTaken) :
    s = t :=
  Spot.ext hseat htaken

/-- The plan tells all spots apart. -/
theorem mark_injective {s t : Spot} (h : s.mark = t.mark) : s = t := by
  cases s <;> cases t <;> first | rfl | exact absurd h (by decide)

/-- Reading undoes printing as long as the seat is free. -/
theorem ofMark?_mark (s : Spot) : ofMark? s.mark = if s.isTaken then none else some s := by
  cases s <;> decide

end Spot

/-- A place of a layout. -/
structure Cell extends spot : Spot where
  /-- The number of taken seats around, as far as it is known; below zero for a while when a
  departure is reported before the number that it lowers. -/
  tally : Int := 0
deriving DecidableEq, Repr

namespace Cell

/-- The two flags of a cell. -/
def flags (c : Cell) : Flags := c.toFlags

/-- The tally as a number of seats: what is below zero reads as none. -/
def count (c : Cell) : Nat := c.tally.toNat

/-- The cell after somebody sat down or left; the tally stays. -/
def occupy (occupied : Bool) (c : Cell) : Cell :=
  { c with spot := c.spot.occupy occupied }

/-- The cell with `n` added to its tally. -/
def credit (n : Int) (c : Cell) : Cell :=
  { c with tally := c.tally + n }

/-- The cell with `n` added to its tally if it is a seat. -/
def creditSeat (n : Int) (c : Cell) : Cell :=
  if c.spot.isSeat then c.credit n else c

/-- The cell with nothing tallied. -/
def clear (c : Cell) : Cell :=
  { c with tally := 0 }

/-- A cell is its spot and its tally. -/
@[ext] theorem ext {c d : Cell} (hspot : c.spot = d.spot) (htally : c.tally = d.tally) : c = d := by
  cases c
  cases d
  cases hspot
  cases htally
  rfl

/-- Cells have the same flags when the same stands there. -/
theorem flags_eq_iff {c d : Cell} : c.flags = d.flags ↔ c.spot = d.spot := by
  constructor
  · intro hflags
    exact Spot.ext (congrArg Flags.present hflags) (congrArg Flags.occupied hflags)
  · intro hspot
    exact congrArg Spot.toFlags hspot

@[simp] theorem spot_occupy (b : Bool) (c : Cell) : (c.occupy b).spot = c.spot.occupy b := rfl

@[simp] theorem tally_occupy (b : Bool) (c : Cell) : (c.occupy b).tally = c.tally := rfl

@[simp] theorem spot_credit (n : Int) (c : Cell) : (c.credit n).spot = c.spot := rfl

@[simp] theorem tally_credit (n : Int) (c : Cell) : (c.credit n).tally = c.tally + n := rfl

/-- A credit for seats moves nobody. -/
@[simp] theorem spot_creditSeat (n : Int) (c : Cell) : (c.creditSeat n).spot = c.spot := by
  unfold creditSeat; split <;> rfl

/-- It is added to the tally of a seat. -/
theorem tally_creditSeat (n : Int) (c : Cell) :
    (c.creditSeat n).tally = if c.spot.isSeat then c.tally + n else c.tally := by
  unfold creditSeat; split <;> rfl

@[simp] theorem spot_clear (c : Cell) : c.clear.spot = c.spot := rfl

@[simp] theorem tally_clear (c : Cell) : c.clear.tally = 0 := rfl

end Cell

end WaitingRoom
