import Mathlib.Logic.Basic
import WaitingRoom.Simulation

/-!
# Buffers that take turns

A simulation finds its two generations by an index that changes with every tick. Here they are found
wherever they are, and ticks are compared with ticks of two generations that need no index.

* **`Simulation.readWrite_eq`**, **`Simulation.intoLayout_eq_current`**: a tick reads the latest
  generation and writes over the one before, and what a simulation leaves is its latest generation,
  whichever buffer that is.
* **`Rule.turn`**: a tick of two generations without buffers. **`Simulation.tick_refines`** says that
  the tick of a simulation is one, and that it moves the index to the other buffer.
* **`Simulation.eq_of_views`**: the rule, the two generations, the index and the number of ticks are all
  that there is to a simulation.
* **`Simulation.stored`**: the simulation with given generations that starts from the first buffer, so
  many ticks later: the latest generation is in the first buffer after an even number of ticks, and
  in the second one after an odd number.

Nothing is assumed of the layouts in the buffers: they may differ in size, and any tallies may be
stored in them.
-/

namespace WaitingRoom

/-- A tick of the latest generation and the one before, wherever they are kept: the two that follow,
and the number of seats that changed. -/
def Rule.turn (r : Rule) (latest before : Layout) : (Layout × Layout) × Nat :=
  let sweep := r.sweep latest before latest.positions
  ((sweep.target, if r.tracked then latest.clearTallies else latest), sweep.changed)

/-! ### Two buffers -/

section

variable {buffers buffers' : Vector Layout 2}

/-- Two buffers hold what one of them holds. -/
theorem mem_pair_iff {g : Layout} (buffers : Vector Layout 2) :
    g ∈ buffers ↔ g = buffers.get 0 ∨ g = buffers.get 1 := by
  rw [Vector.mem_iff_getElem]
  constructor
  · rintro ⟨i, hi, rfl⟩
    rcases Nat.le_one_iff_eq_zero_or_eq_one.1 (Nat.le_of_lt_succ hi) with rfl | rfl
    · exact .inl rfl
    · exact .inr rfl
  · rintro (rfl | rfl)
    · exact ⟨0, Nat.zero_lt_two, rfl⟩
    · exact ⟨1, Nat.one_lt_two, rfl⟩

/-- Nor is there more to compare. -/
theorem pair_ext (hfirst : buffers.get 0 = buffers'.get 0)
    (hsecond : buffers.get 1 = buffers'.get 1) : buffers = buffers' := by
  apply Vector.ext
  intro i hi
  rcases Nat.le_one_iff_eq_zero_or_eq_one.1 (Nat.le_of_lt_succ hi) with rfl | rfl
  · exact hfirst
  · exact hsecond

end

namespace Simulation

/-! ### Where the generations are -/

/-- Simulations are of two kinds: the latest generation is in the first buffer or in the second one. -/
theorem byIndex {motive : Simulation → Prop}
    (first : ∀ r buffers ticks, motive ⟨r, buffers, 0, Nat.zero_lt_two, ticks⟩)
    (second : ∀ r buffers ticks, motive ⟨r, buffers, 1, Nat.one_lt_two, ticks⟩) :
    ∀ s, motive s
  | ⟨r, buffers, 0, _, ticks⟩ => first r buffers ticks
  | ⟨r, buffers, 1, _, ticks⟩ => second r buffers ticks
  | ⟨_, _, index + 2, h, _⟩ => absurd h (Nat.not_lt.2 (Nat.le_add_left 2 index))

/-- A tick reads the latest generation and writes over the one before. -/
theorem readWrite_eq (s : Simulation) : s.readWrite = (s.current, s.previous) := by
  cases s using byIndex with
  | first => rfl
  | second => rfl

/-- A simulation leaves its latest generation behind, whichever buffer holds it. -/
theorem intoLayout_eq_current (s : Simulation) : s.intoLayout = s.current := by
  cases s using byIndex with
  | first => rfl
  | second => rfl

/-- The latest generation is found at the index. -/
theorem getElem?_index (s : Simulation) : s.buffers[s.index]? = some s.current :=
  Vector.getElem?_eq_getElem s.index_lt

/-- There is nothing in the buffers but the two generations. -/
theorem mem_buffers_iff (s : Simulation) (g : Layout) :
    g ∈ s.buffers ↔ g = s.current ∨ g = s.previous := by
  cases s using byIndex with
  | first r buffers ticks => exact mem_pair_iff buffers
  | second r buffers ticks => exact (mem_pair_iff buffers).trans or_comm

/-! ### What a tick does to them -/

/-- A tick keeps the rule. -/
@[simp] theorem rule_tick (s : Simulation) : s.tick.1.rule = s.rule := rfl

/-- A tick is counted. -/
@[simp] theorem ticks_tick (s : Simulation) : s.tick.1.ticks = s.ticks + 1 := rfl

/-- At the start the room is in the first buffer. -/
@[simp] theorem index_start (r : Rule) (g : Layout) : (start r g).index = 0 := rfl

/-- With every tick the buffers take turns. -/
@[simp] theorem index_tick (s : Simulation) : s.tick.1.index = 1 - s.index := rfl

/-- **A tick does to the two generations what a tick without buffers does.** The buffer that was read
becomes the generation before, and the one that was written the latest generation. -/
theorem tick_refines (s : Simulation) :
    ((s.tick.1.current, s.tick.1.previous), s.tick.2) = s.rule.turn s.current s.previous := by
  cases s using byIndex with
  | first => rfl
  | second => rfl

/-- The latest generation after a tick is what the sweep has written. -/
theorem current_tick (s : Simulation) :
    s.tick.1.current = (s.rule.sweep s.current s.previous s.current.positions).target :=
  congrArg (fun answer => answer.1.1) s.tick_refines

/-- The generation before is what the sweep has read, without its tallies if there were any to keep. -/
theorem previous_tick (s : Simulation) :
    s.tick.1.previous = if s.rule.tracked then s.current.clearTallies else s.current :=
  congrArg (fun answer => answer.1.2) s.tick_refines

/-- The second simulation is the first one after a tick that has changed nothing: what it holds is the
same, but the two generations have changed places. -/
structure Idled (s t : Simulation) : Prop where
  /-- The same rule. -/
  rule : t.rule = s.rule
  /-- The same latest generation. -/
  current : t.current = s.current
  /-- The same generation before. -/
  previous : t.previous = s.previous
  /-- The latest generation is in the other buffer. -/
  index : t.index = 1 - s.index
  /-- One tick more has been made. -/
  ticks : t.ticks = s.ticks + 1

/-! ### The whole state -/

/-- Simulations are the same when all views of them are. -/
theorem eq_of_views {s t : Simulation} (hrule : s.rule = t.rule) (hcurrent : s.current = t.current)
    (hprevious : s.previous = t.previous) (hindex : s.index = t.index)
    (hticks : s.ticks = t.ticks) : s = t := by
  -- the views are of the same buffers only if the indices agree
  cases s using byIndex with
  | first r buffers ticks =>
    cases t using byIndex with
    | first r' buffers' ticks' =>
      cases hrule
      cases hticks
      cases pair_ext hcurrent hprevious
      rfl
    | second => cases hindex
  | second r buffers ticks =>
    cases t using byIndex with
    | first => cases hindex
    | second r' buffers' ticks' =>
      cases hrule
      cases hticks
      cases pair_ext hprevious hcurrent
      rfl

/-- The simulation that has made so many ticks since it started with the first buffer, and holds the
two given generations now. -/
def stored (rule : Rule) (latest before : Layout) (ticks : Nat) : Simulation where
  rule := rule
  buffers := arrange (ticks % 2) latest before
  index := ticks % 2
  index_lt := Nat.mod_lt ticks Nat.zero_lt_two
  ticks := ticks

section

variable (r : Rule) (latest before : Layout) (n : Nat)

/-- The rule is the given one. -/
@[simp] theorem rule_stored : (stored r latest before n).rule = r := rfl

/-- The index tells even numbers of ticks from odd ones. -/
@[simp] theorem index_stored : (stored r latest before n).index = n % 2 := rfl

/-- So many ticks have been made. -/
@[simp] theorem ticks_stored : (stored r latest before n).ticks = n := rfl

/-- The next tick reads and writes the given generations. -/
theorem readWrite_stored : (stored r latest before n).readWrite = (latest, before) := by
  rw [readWrite, index_stored]
  unfold stored arrange
  -- both ask whether the number of ticks is even
  split
  · rfl
  · rfl

/-- The latest generation is the given one. -/
@[simp] theorem current_stored : (stored r latest before n).current = latest :=
  congrArg Prod.fst ((readWrite_eq _).symm.trans (readWrite_stored r latest before n))

/-- So is the one before. -/
@[simp] theorem previous_stored : (stored r latest before n).previous = before :=
  congrArg Prod.snd ((readWrite_eq _).symm.trans (readWrite_stored r latest before n))

/-- One tick later the same generations have changed places. -/
theorem idled_stored : (stored r latest before n).Idled (stored r latest before (n + 1)) where
  rule := rfl
  current := by rw [current_stored, current_stored]
  previous := by rw [previous_stored, previous_stored]
  index := by
    rw [index_stored, index_stored]
    omega
  ticks := rfl

/-- A simulation starts in the first buffer. -/
theorem start_eq_stored (g : Layout) :
    start r g =
      stored r (if r.tracked then g.recount else g) (if r.tracked then g.clearTallies else g) 0 :=
  rfl

/-- A tick of stored generations stores those that a tick without buffers leads to. -/
theorem tick_stored :
    (stored r latest before n).tick =
      (stored r (r.turn latest before).1.1 (r.turn latest before).1.2 (n + 1),
        (r.turn latest before).2) := by
  have hrefines := (stored r latest before n).tick_refines
  rw [rule_stored, current_stored, previous_stored] at hrefines
  rw [← hrefines]
  refine Prod.ext ?_ rfl
  apply eq_of_views
  · rfl
  · rw [current_stored]
  · rw [previous_stored]
  · exact (idled_stored r latest before n).index.symm
  · rfl

end

end Simulation

end WaitingRoom
