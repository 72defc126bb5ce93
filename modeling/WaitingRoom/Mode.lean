import WaitingRoom.Layout.Sight

/-!
# Modes

* **`Mode`**: the two ways to look around before sitting down or leaving.
* **`Mode.name`**, **`Mode.ofName`**: the words for them.
* **`Mode.neighbors`**, **`Mode.occupied`**: the places that count, and how many of them are taken.
-/

namespace WaitingRoom

/-- Which places somebody looks at before sitting down or leaving. -/
inductive Mode where
  /-- The places around. -/
  | adjacent
  /-- The first seat in each direction. -/
  | visible
deriving DecidableEq, Repr

/-- A word that names no mode. -/
structure UnknownMode where
  /-- The word. -/
  name : String
deriving DecidableEq, Repr

/-- The wording of the refusal. -/
def UnknownMode.message (e : UnknownMode) : String :=
  s!"{e.name} is not a valid mode, expect one of: adjacent, visible."

namespace Mode

/-- The word for a mode. -/
def name : Mode → String
  | adjacent => "adjacent"
  | visible => "visible"

instance : ToString Mode := ⟨name⟩

/-- The mode that a word names, letter by letter. -/
def ofName (name : String) : Except UnknownMode Mode :=
  if name = "adjacent" then .ok adjacent
  else if name = "visible" then .ok visible
  else .error ⟨name⟩

/-- The places that count for a position. -/
def neighbors (m : Mode) (g : Layout) (p : Position) : List Position :=
  match m with
  | adjacent => g.adjacent p
  | visible => g.sighted p

/-- How many of the places that count are taken. -/
def occupied (m : Mode) (g : Layout) (p : Position) : Nat :=
  g.occupiedAmong (m.neighbors g p)

/-- The name of a mode is read as the mode. -/
@[simp] theorem ofName_name (m : Mode) : ofName m.name = .ok m := by
  cases m <;> rfl

end Mode

end WaitingRoom
