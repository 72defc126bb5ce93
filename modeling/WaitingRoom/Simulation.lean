import WaitingRoom.Layout.Tally
import WaitingRoom.Rule

/-!
# Simulations

A simulation keeps two generations of one room in two buffers. A tick reads the buffer that holds the
latest generation, writes the next one over the other buffer, and lets the two take turns.

* **`Rule.visit`**, **`Rule.sweep`**: one seat, and a list of places, of a tick. Only the source is
  read, so what has been written in the target cannot influence the decisions.
* **`Simulation`**, **`Simulation.start`**: the two buffers, the index of the one with the latest
  generation, and the number of ticks made.
* **`Simulation.current`**, **`Simulation.previous`**: the latest generation and the one before, found
  by index. **`Simulation.intoLayout`** hands the latest one out and drops the simulation.
* **`Simulation.readWrite`**, **`Simulation.putBack`**, **`Simulation.swap`**, **`Simulation.tick`**:
  which buffer is read and which one is written, what is stored in them, how they take turns, and
  one tick, with the number of seats that changed.
* **`Simulation.runFor`**, **`Simulation.run`**: ticks until one changes nothing. A run that has
  not come to rest after as many ticks as there are ways to occupy the seats has been through one
  of them twice and never rests; its result is `none`.

Under a tracked rule the tallies of the latest generation are exact and those of the other one are
zero between ticks: the target starts from nothing, each seat carries its old count over, and each
change is announced to the seats around, in whatever order these happen.
-/

namespace WaitingRoom

/-- A tick under way: the next generation as far as it is written. -/
structure Sweep where
  /-- The next generation. -/
  target : Layout
  /-- The number of seats that have changed. -/
  changed : Nat

namespace Rule

/-- The count that decides about a place: the tally under a tracked rule, or else a fresh count. -/
def countAt (r : Rule) (source : Layout) (p : Position) : Nat :=
  if r.tracked then source.cached p else r.occupied source p

/-- Decides about one place of the source and writes the decision to the target. Floor is the same
in both and is passed over. -/
def visit (r : Rule) (source : Layout) : Sweep → Position → Sweep
  | ⟨target, changed⟩, p =>
    if source.isSeat p then
      let taken := source.isTaken p
      let next := r.next taken (r.countAt source p)
      let carried := if r.tracked then target.carryFrom source p else target
      let written := carried.occupy p next
      if next = taken then ⟨written, changed⟩
      else ⟨if r.tracked then written.announce p next else written, changed + 1⟩
    else ⟨target, changed⟩

/-- Decides about the places one after another. -/
def sweep (r : Rule) (source target : Layout) (places : List Position) : Sweep :=
  places.foldl (r.visit source) { target, changed := 0 }

end Rule

/-- Two generations of a room under one rule, in two buffers that take turns. -/
structure Simulation where
  /-- The rule. -/
  rule : Rule
  /-- The buffers. -/
  buffers : Vector Layout 2
  /-- Which buffer holds the latest generation. -/
  index : Nat
  /-- There is such a buffer. -/
  index_lt : index < 2
  /-- The number of ticks made. -/
  ticks : Nat

/-- What a tick did. -/
structure TickRecord where
  /-- The number of the tick, counted from one since the start of the simulation. -/
  tick : Nat
  /-- The number of seats that changed. -/
  changed : Nat
deriving DecidableEq, Repr

/-- A run that has come to rest. -/
structure Run where
  /-- The simulation after the tick that changed nothing. -/
  final : Simulation
  /-- The number of ticks that changed something. -/
  ticks : Nat
  /-- All ticks of the run in order, the last quiet one included. -/
  records : List TickRecord

namespace Simulation

/-- The simulation of a room before its first tick, with the room in both buffers. A tracked rule
gets fresh tallies, whatever the layout brings along. -/
def start (rule : Rule) (g : Layout) : Simulation where
  rule := rule
  buffers :=
    #v[if rule.tracked then g.recount else g, if rule.tracked then g.clearTallies else g]
  index := 0
  index_lt := Nat.zero_lt_two
  ticks := 0

/-! ### Which buffer is which -/

/-- The latest generation. -/
def current (s : Simulation) : Layout := s.buffers.get ⟨s.index, s.index_lt⟩

/-- The generation before, which the next tick writes over. -/
def previous (s : Simulation) : Layout :=
  s.buffers.get ⟨1 - s.index, Nat.lt_of_le_of_lt (Nat.sub_le 1 s.index) Nat.one_lt_two⟩

/-- The layout that is left when the simulation is over. -/
def intoLayout (s : Simulation) : Layout :=
  if s.index = 0 then s.buffers[0] else s.buffers[1]

/-- The buffer that the next tick reads, and the one that it writes. -/
def readWrite (s : Simulation) : Layout × Layout :=
  if s.index = 0 then (s.buffers[0], s.buffers[1]) else (s.buffers[1], s.buffers[0])

/-- The two buffers with one layout at an index and another one beside it. -/
def arrange (index : Nat) (here there : Layout) : Vector Layout 2 :=
  if index = 0 then #v[here, there] else #v[there, here]

/-- The simulation after something was stored in the buffer that is read and in the one that is
written. -/
def putBack (s : Simulation) (read written : Layout) : Simulation :=
  { s with buffers := arrange s.index read written }

/-- The simulation after the buffers took turns. -/
def swap (s : Simulation) : Simulation :=
  { s with
    index := 1 - s.index
    index_lt := Nat.lt_of_le_of_lt (Nat.sub_le 1 s.index) Nat.one_lt_two }

/-! ### Ticks and runs -/

/-- One tick, and the number of seats that changed. -/
def tick (s : Simulation) : Simulation × Nat :=
  let (source, target) := s.readWrite
  let sweep := s.rule.sweep source target source.positions
  let read := if s.rule.tracked then source.clearTallies else source
  ({ (s.putBack read sweep.target).swap with ticks := s.ticks + 1 }, sweep.changed)

/-- Ticks until one changes nothing, with at most `limit` ticks. -/
def runFor : Nat → Simulation → Option Run
  | 0, _ => none
  | limit + 1, s =>
    let (next, changed) := s.tick
    let record : TickRecord := { tick := next.ticks, changed }
    if changed = 0 then some { final := next, ticks := 0, records := [record] }
    else
      (runFor limit next).map fun run =>
        { run with ticks := run.ticks + 1, records := record :: run.records }

/-- Ticks until one changes nothing, or `none` if every tick changes something. -/
def run (s : Simulation) : Option Run :=
  s.runFor (Nat.pow 2 s.current.seats)

end Simulation

end WaitingRoom
