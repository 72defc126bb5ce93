import WaitingRoom.Proofs.Relocation

/-!
# Rooms in the mirror

A plan may be turned over in three ways: its rows in reverse order, each row in reverse order, or
its rows made columns. Nobody in the room notices.

* **`Reflection`**: the three ways, on the rows of a plan (`Reflection.onRows`), on places
  (`Reflection.move`) and on directions (`Reflection.turn`).
* **`Layout.reflect`**: a layout in the mirror, with people and tallies. Its cell at a place is that
  of the mirrored place (`Layout.cell?_reflect`).
* **`Layout.ofRows_reflect`**: reading the reflected rows gives the reflected layout.
* **`Simulation.after_start_reflect`**: ticks change as many seats in the mirror, and every
  generation is the mirror image of the generation of the same number.
-/

namespace WaitingRoom

/-- A way to turn over a plan. -/
inductive Reflection where
  /-- The rows in reverse order. -/
  | upsideDown
  /-- Each row in reverse order. -/
  | leftRight
  /-- Rows made columns. -/
  | diagonal
deriving DecidableEq, Repr

namespace Reflection

variable (t : Reflection) {rows cols n i : Nat} {p q : Position} {d : Direction}

/-! ### Places and directions -/

/-- The number counted from the other end of the first `n` numbers. Numbers beyond stay. -/
def flip (n i : Nat) : Nat := if i < n then n - 1 - i else i

/-- Within a row a flip counts from the other end. -/
theorem flip_of_lt (hi : i < n) : (flip n i : Int) = n - 1 - i := by
  rw [flip, if_pos hi]
  omega

/-- A flip stays within the row. -/
theorem flip_lt_iff : flip n i < n ↔ i < n := by
  unfold flip
  split <;> omega

/-- Flipping back is flipping again. -/
theorem flip_flip (n i : Nat) : flip n (flip n i) = i := by
  by_cases hi : i < n
  · have := flip_of_lt (flip_lt_iff.2 hi)
    rw [flip_of_lt hi] at this
    omega
  · simp [flip, hi]

/-- Where a place of a plan of the given size goes. -/
def move (rows cols : Nat) (p : Position) : Position :=
  match t with
  | upsideDown => ⟨flip rows p.row, p.col⟩
  | leftRight => ⟨p.row, flip cols p.col⟩
  | diagonal => ⟨p.col, p.row⟩

/-- Where a direction goes. -/
def turn : Reflection → Direction → Direction
  | upsideDown, .northWest => .southWest
  | upsideDown, .north => .south
  | upsideDown, .northEast => .southEast
  | upsideDown, .southWest => .northWest
  | upsideDown, .south => .north
  | upsideDown, .southEast => .northEast
  | leftRight, .northWest => .northEast
  | leftRight, .west => .east
  | leftRight, .southWest => .southEast
  | leftRight, .northEast => .northWest
  | leftRight, .east => .west
  | leftRight, .southEast => .southWest
  | diagonal, .north => .west
  | diagonal, .northEast => .southWest
  | diagonal, .east => .south
  | diagonal, .west => .north
  | diagonal, .southWest => .northEast
  | diagonal, .south => .east
  | _, d => d

/-- The number of rows of a plan turned over. -/
def height (rows cols : Nat) : Nat :=
  match t with
  | upsideDown | leftRight => rows
  | diagonal => cols

/-- The number of columns of a plan turned over. -/
def width (rows cols : Nat) : Nat :=
  match t with
  | upsideDown | leftRight => cols
  | diagonal => rows

/-- A room with places has places in the mirror. -/
theorem height_pos (hrows : 0 < rows) (hcols : 0 < cols) : 0 < t.height rows cols := by
  cases t <;> assumption

/-- What is turned over twice is as before. -/
theorem move_move (rows cols : Nat) (p : Position) :
    t.move rows cols (t.move rows cols p) = p := by
  cases t with
  | upsideDown => exact Position.ext (flip_flip rows p.row) rfl
  | leftRight => exact Position.ext rfl (flip_flip cols p.col)
  | diagonal => rfl

/-- Turning back is turning again. -/
theorem turn_turn (d : Direction) : t.turn (t.turn d) = d := by
  cases t <;> cases d <;> rfl

/-- A place goes inside the plan turned over when it lies inside the plan. -/
theorem move_lt_iff : (t.move rows cols p).row < rows ∧ (t.move rows cols p).col < cols ↔
    p.row < t.height rows cols ∧ p.col < t.width rows cols := by
  cases t with
  | upsideDown => exact and_congr_left fun _ => flip_lt_iff
  | leftRight => exact and_congr_right fun _ => flip_lt_iff
  | diagonal => exact and_comm

/-- What lies ahead lies ahead in the mirror. -/
theorem ahead_move_iff (hp : p.row < rows ∧ p.col < cols) (hq : q.row < rows ∧ q.col < cols) :
    (t.move rows cols p).Ahead (t.turn d) n (t.move rows cols q) ↔ p.Ahead d n q := by
  cases t with
  | upsideDown =>
    have hrow : (upsideDown.turn d).rowShift = -d.rowShift := by cases d <;> rfl
    have hcol : (upsideDown.turn d).colShift = d.colShift := by cases d <;> rfl
    simp only [Position.Ahead, move, flip_of_lt hp.1, flip_of_lt hq.1, hrow, hcol, Int.mul_neg]
    exact and_congr_left fun _ => by omega
  | leftRight =>
    have hrow : (leftRight.turn d).rowShift = d.rowShift := by cases d <;> rfl
    have hcol : (leftRight.turn d).colShift = -d.colShift := by cases d <;> rfl
    simp only [Position.Ahead, move, flip_of_lt hp.2, flip_of_lt hq.2, hrow, hcol, Int.mul_neg]
    exact and_congr_right fun _ => by omega
  | diagonal =>
    have hrow : (diagonal.turn d).rowShift = d.colShift := by cases d <;> rfl
    have hcol : (diagonal.turn d).colShift = d.rowShift := by cases d <;> rfl
    simp only [Position.Ahead, move, hrow, hcol]
    exact and_comm

/-- Turning over a plan of the given size moves its places. -/
def relocation (rows cols : Nat) : Relocation where
  move := t.move rows cols
  turn := t.turn
  move_injective := Function.LeftInverse.injective (t.move_move rows cols)
  turn_surjective := Function.RightInverse.surjective t.turn_turn

/-! ### Rows -/

variable {plan : List (List Char)}

/-- The rows of a plan turned over. -/
def onRows (plan : List (List Char)) : List (List Char) :=
  match t with
  | upsideDown => plan.reverse
  | leftRight => plan.map List.reverse
  | diagonal => (List.range (plan.headD []).length).map fun col => plan.filterMap (·[col]?)

/-- The lines of a plan turned over. -/
def onLines (lines : List String) : List String :=
  (t.onRows (lines.map String.toList)).map String.ofList

/-- A reversed list is read from the other end. -/
theorem getElem?_reverse_flip {α : Type} (l : List α) (i : Nat) :
    l.reverse[i]? = l[flip l.length i]? := by
  by_cases hi : i < l.length
  · rw [List.getElem?_reverse hi, flip, if_pos hi]
  · simp [flip, hi]

/-- A column of rows that all reach so far has a mark of each of them. -/
theorem map_some_filterMap {col : Nat} (hplan : ∀ row ∈ plan, col < row.length) :
    (plan.filterMap (·[col]?)).map some = plan.map (·[col]?) := by
  induction plan with
  | nil => rfl
  | cons row plan ih =>
    rw [List.forall_mem_cons] at hplan
    have hmark : row[col]? = some row[col] := List.getElem?_eq_getElem hplan.1
    simp only [List.filterMap_cons, hmark, List.map_cons, ih hplan.2]

/-- A column has one mark of each row. -/
theorem length_filterMap {col : Nat} (hplan : ∀ row ∈ plan, col < row.length) :
    (plan.filterMap (·[col]?)).length = plan.length := by
  simpa using congrArg List.length (map_some_filterMap hplan)

/-- The marks of a column stand one below the other. -/
theorem getElem?_filterMap {col : Nat} (hplan : ∀ row ∈ plan, col < row.length) (i : Nat) :
    (plan.filterMap (·[col]?))[i]? = plan[i]?.bind (·[col]?) := by
  have hi := congrArg (·[i]?.bind id) (map_some_filterMap hplan)
  simpa only [List.getElem?_map, Option.bind_map, Function.id_comp, Option.bind_fun_some] using hi

/-- The mark at a place of a plan turned over is that of the mirrored place. -/
theorem markAt_onRows (hplan : Readable plan cols) (p : Position) :
    markAt (t.onRows plan) p = markAt plan (t.move plan.length cols p) := by
  cases t with
  | upsideDown => rw [markAt, onRows, getElem?_reverse_flip, markAt, move]
  | leftRight =>
    rw [markAt, onRows, List.getElem?_map, markAt, move]
    rcases hrow : plan[p.row]? with _ | row
    · rfl
    · simp [getElem?_reverse_flip, hplan.length row (List.mem_of_getElem? hrow)]
  | diagonal =>
    by_cases hne : plan = []
    · subst hne
      rfl
    · have hlength := hplan.length_headD hne
      rw [markAt, onRows, List.getElem?_map, markAt, move, hlength]
      by_cases hcol : p.row < cols
      · rw [List.getElem?_range hcol, Option.map_some, Option.bind_some]
        exact getElem?_filterMap (fun row hrow => by rwa [hplan.length row hrow]) p.col
      · rw [List.getElem?_eq_none (by simpa using hcol)]
        rcases hrow : plan[p.col]? with _ | row
        · rfl
        · have := hplan.length row (List.mem_of_getElem? hrow)
          simp [this, hcol]

/-- A plan turned over can be read. -/
theorem readable_onRows (hplan : Readable plan cols) :
    Readable (t.onRows plan) (t.width plan.length cols) := by
  cases t with
  | upsideDown =>
    refine ⟨fun row hrow => ?_, fun row hrow => ?_⟩
    · exact hplan.length row (List.mem_reverse.1 hrow)
    · exact hplan.mark row (List.mem_reverse.1 hrow)
  | leftRight =>
    refine ⟨fun row hrow => ?_, fun row hrow c hc => ?_⟩
    · obtain ⟨row, hmem, rfl⟩ := List.mem_map.1 hrow
      rw [List.length_reverse]
      exact hplan.length row hmem
    · obtain ⟨row, hmem, rfl⟩ := List.mem_map.1 hrow
      exact hplan.mark row hmem c (List.mem_reverse.1 hc)
  | diagonal =>
    refine ⟨fun column hcolumn => ?_, fun column hcolumn c hc => ?_⟩
    · obtain ⟨col, hcol, rfl⟩ := List.mem_map.1 hcolumn
      apply length_filterMap
      intro row hrow
      have hne : plan ≠ [] := List.ne_nil_of_mem hrow
      rw [hplan.length row hrow, ← hplan.length_headD hne]
      exact List.mem_range.1 hcol
    · obtain ⟨col, -, rfl⟩ := List.mem_map.1 hcolumn
      obtain ⟨row, hrow, hmark⟩ := List.mem_filterMap.1 hc
      exact hplan.mark row hrow c (List.mem_of_getElem? hmark)

/-- A reflected plan has as many rows as the mirror is high. -/
theorem length_onRows (hplan : Readable plan cols) (hne : plan ≠ []) :
    (t.onRows plan).length = t.height plan.length cols := by
  cases t with
  | upsideDown => exact List.length_reverse
  | leftRight => exact List.length_map _
  | diagonal => rw [onRows, List.length_map, List.length_range, hplan.length_headD hne, height]

end Reflection

/-! ### Layouts -/

namespace Layout

variable {g g' : Layout} {t : Reflection} {p : Position}

/-- The layout of the given size with the given cells, and no surplus. -/
def tabulate (rows cols : Nat) (cell : Position → Cell) : Layout where
  rows := rows
  cols := cols
  cells := ((List.range rows).flatMap fun row =>
    (List.range cols).map fun col => cell ⟨row, col⟩).toArray
  covers := by simp [List.length_flatMap]

/-- A table has nothing left over. -/
theorem surplus_tabulate (rows cols : Nat) (cell : Position → Cell) :
    (tabulate rows cols cell).surplus = [] := by
  simp [surplus, tabulate, List.length_flatMap]

/-- A table has the given cells. -/
theorem cell?_tabulate {rows cols : Nat} {cell : Position → Cell}
    (hp : p ∈ tabulate rows cols cell) : (tabulate rows cols cell).cell? p = some (cell p) := by
  have hcells : (tabulate rows cols cell).cells.toList =
      (tabulate rows cols cell).positions.map cell := by
    simp only [tabulate, positions, List.map_flatMap, List.map_map]
    rfl
  rw [cell?_of_mem hp, ← Array.getElem?_toList, hcells, List.getElem?_map, getElem?_positions hp,
    Option.map_some]

/-- A layout in the mirror: each place has the cell of the mirrored place, with its tally. -/
def reflect (g : Layout) (t : Reflection) : Layout :=
  tabulate (t.height g.rows g.cols) (t.width g.rows g.cols) fun p =>
    ⟨g.spotAt (t.move g.rows g.cols p), g.tallyAt (t.move g.rows g.cols p)⟩

/-- The mirror has its own height. -/
@[simp] theorem rows_reflect (g : Layout) (t : Reflection) :
    (g.reflect t).rows = t.height g.rows g.cols := rfl

/-- The mirror has its own width. -/
@[simp] theorem cols_reflect (g : Layout) (t : Reflection) :
    (g.reflect t).cols = t.width g.rows g.cols := rfl

/-- Nothing is left over in the mirror. -/
@[simp] theorem surplus_reflect (g : Layout) (t : Reflection) : (g.reflect t).surplus = [] :=
  surplus_tabulate _ _ _

/-- A position is inside the mirror when it comes from inside. -/
theorem mem_reflect : p ∈ g.reflect t ↔ t.move g.rows g.cols p ∈ g := t.move_lt_iff.symm

/-- The cell of a place in the mirror is that of the mirrored place. -/
theorem cell?_reflect (g : Layout) (t : Reflection) (p : Position) :
    (g.reflect t).cell? p = g.cell? (t.move g.rows g.cols p) := by
  by_cases hp : p ∈ g.reflect t
  · rw [cell?_eq_views (mem_reflect.1 hp)]
    exact cell?_tabulate hp
  · rw [cell?_of_not_mem hp, cell?_of_not_mem (mem_reflect.not.1 hp)]

/-- A room is found again in the mirror. -/
theorem relocated_reflect (g : Layout) (t : Reflection) :
    Relocated (t.relocation g.rows g.cols) g (g.reflect t) := by
  refine ⟨fun p _ => ?_, fun p hp q hq d n => t.ahead_move_iff hp hq, fun q hq => ?_⟩
  · rw [cell?_reflect]
    exact congrArg g.cell? (t.move_move g.rows g.cols p)
  · exact ⟨t.move g.rows g.cols q, mem_reflect.1 (mem_of_isSeat hq), t.move_move g.rows g.cols q⟩

/-- Whatever has the size of the mirror image, and no surplus, is the mirror image if the room is
found again in it. -/
theorem Relocated.eq_reflect (hg : Relocated (t.relocation g.rows g.cols) g g')
    (hrows : g'.rows = t.height g.rows g.cols) (hcols : g'.cols = t.width g.rows g.cols)
    (hsurplus : g'.surplus = []) : g' = g.reflect t := by
  refine eq_of_cell? ?_ fun p => ?_
  · rw [outline, outline, hrows, hcols, hsurplus, surplus_reflect, rows_reflect, cols_reflect]
  · have hmem : p ∈ g' ↔ t.move g.rows g.cols p ∈ g := by
      rw [← mem_reflect, mem_iff, mem_iff, hrows, hcols]
      rfl
    rw [cell?_reflect]
    by_cases hp : p ∈ g'
    · have hcell := hg.cell _ (hmem.1 hp)
      rwa [show (t.relocation g.rows g.cols).move (t.move g.rows g.cols p) = p from
        t.move_move g.rows g.cols p] at hcell
    · rw [cell?_of_not_mem hp, cell?_of_not_mem (hmem.not.1 hp)]

/-- **Reading the reflected rows gives the reflected layout**, as long as there is a place. -/
theorem ofRows_reflect {rows : List (List Char)} {plan : Layout} (hplan : ofRows rows = .ok plan)
    (hcols : 0 < plan.cols) (t : Reflection) : ofRows (t.onRows rows) = .ok (plan.reflect t) := by
  obtain ⟨hholds, hempty⟩ := holds_of_ofRows hplan
  have hne : rows ≠ [] := fun h => absurd (hempty h) hcols.ne'
  have hreadable := t.readable_onRows hholds.readable
  have hlength := t.length_onRows hholds.readable hne
  obtain ⟨plan', hplan'⟩ := exists_ofRows hreadable
  obtain ⟨hholds', -⟩ := holds_of_ofRows hplan'
  rw [hplan']
  congr 1
  refine eq_of_cell? ?_ fun p => ?_
  · -- a plan turned over has a row, which tells its width
    have hne' : t.onRows rows ≠ [] := by
      rw [← List.length_pos_iff, hlength]
      exact t.height_pos (List.length_pos_iff.2 hne) hcols
    obtain ⟨row, hrow⟩ := List.exists_mem_of_ne_nil _ hne'
    rw [outline, outline, hholds'.surplus_eq, surplus_reflect, hholds'.rows, hlength,
      hholds'.cols_eq hrow, hreadable.length row hrow, ← hholds.rows]
    rfl
  · rw [hholds'.cell?_eq, t.markAt_onRows hholds.readable, cell?_reflect, hholds.cell?_eq,
      hholds.rows]

end Layout

/-! ### Simulations -/

namespace Simulation

/-- In the mirror every generation is the mirror image of the generation of the same number. -/
theorem current_after_reflect (m : Mode) (g : Layout) (t : Reflection) (k : Nat) :
    ((start m.rule (g.reflect t)).after k).current =
      ((start m.rule g).after k).current.reflect t := by
  have hfloor := sameFloor_current_after m.rule g k
  have hfloor' := sameFloor_current_after m.rule (g.reflect t) k
  have hcurrent := (g.relocated_reflect t).current m k
  apply Layout.Relocated.eq_reflect
  · rwa [hfloor.rows, hfloor.cols]
  · rw [hfloor'.rows, hfloor.rows, hfloor.cols, Layout.rows_reflect]
  · rw [hfloor'.cols, hfloor.rows, hfloor.cols, Layout.cols_reflect]
  · exact surplus_current_after m.rule (g.surplus_reflect t) k

end Simulation

namespace Layout

/-- People who are seated in the mirror are the mirror images of people. -/
theorem seated_reflect (g : Layout) (t : Reflection) (X : Finset Position) :
    (g.reflect t).seated (X.image (t.move g.rows g.cols)) = (g.seated X).reflect t := by
  apply Relocated.eq_reflect
  · rw [rows_seated, cols_seated]
    exact (g.relocated_reflect t).seated X
  · rw [rows_seated, rows_seated, cols_seated, rows_reflect]
  · rw [cols_seated, rows_seated, cols_seated, cols_reflect]
  · rw [surplus_seated, surplus_reflect]

/-- A room and its mirror image come to rest together or not at all, the mirror image in the mirror
image, with the same events. -/
theorem settle_reflect (m : Mode) (g : Layout) (t : Reflection) (hsurplus : g.surplus = []) :
    (g.reflect t).settle m = (g.settle m).map fun answer =>
      ({ answer.1 with layout := answer.1.layout.reflect t }, answer.2) := by
  have hg := g.relocated_reflect t
  rw [settle_of_ticks (hg.tick m) (hg.occupied_current hsurplus (g.surplus_reflect t) m)]
  rcases hsettle : g.settle m with _ | ⟨outcome, events⟩
  · rfl
  · rw [Option.map_some, Option.map_some, layout_of_settle hsettle,
      Simulation.current_after_reflect]

end Layout

namespace Simulation

/-- **Nobody notices the mirror.** Let a plan with a place in it be turned over, and let the people
on it be moved with their seats. Then the plan can be read again; in either mode every tick changes
as many seats as without the mirror, and every generation is the mirror image of the generation of
the same number, people and tallies included. So both come to rest or none, as each other's mirror
image, after the same ticks and with as many people. -/
theorem after_start_reflect (t : Reflection) (lines : List String) (plan : Layout)
    (hplan : Layout.ofLines lines = .ok plan) (hcols : 0 < plan.cols) (X : Finset Position) :
    Layout.ofLines (t.onLines lines) = .ok (plan.reflect t) ∧
      (plan.reflect t).seated (X.image (t.move plan.rows plan.cols)) = (plan.seated X).reflect t ∧
      ∀ m : Mode,
        (∀ k,
          ((start m.rule ((plan.seated X).reflect t)).after k).tick.2 =
              ((start m.rule (plan.seated X)).after k).tick.2 ∧
            ((start m.rule ((plan.seated X).reflect t)).after k).current =
              ((start m.rule (plan.seated X)).after k).current.reflect t) ∧
        (((plan.seated X).reflect t).settle m = ((plan.seated X).settle m).map fun answer =>
          ({ answer.1 with layout := answer.1.layout.reflect t }, answer.2)) ∧
        ((((plan.seated X).reflect t).settle m).map fun answer =>
            (answer.1.ticks, answer.1.occupied, answer.2)) =
          ((plan.seated X).settle m).map fun answer =>
            (answer.1.ticks, answer.1.occupied, answer.2) := by
  have hsurplus : (plan.seated X).surplus = [] := by
    rw [Layout.surplus_seated]
    exact (Layout.holds_of_ofRows hplan).1.surplus_eq
  have hmirror := (plan.seated X).relocated_reflect t
  refine ⟨?_, plan.seated_reflect t X, fun m => ⟨fun k => ⟨?_, ?_⟩, ?_, ?_⟩⟩
  · rw [Reflection.onLines, Layout.ofLines_map_ofList]
    exact Layout.ofRows_reflect hplan hcols t
  · exact hmirror.tick m k
  · exact current_after_reflect m (plan.seated X) t k
  · exact Layout.settle_reflect m (plan.seated X) t hsurplus
  · exact hmirror.settle hsurplus (Layout.surplus_reflect _ t) m

/-- Five seats in the form of a hook. -/
def hook : Layout where
  rows := 3
  cols := 2
  cells := #[⟨.free, 0⟩, ⟨.free, 0⟩, ⟨.free, 0⟩, ⟨.floor, 0⟩, ⟨.free, 0⟩, ⟨.free, 0⟩]
  covers := by decide

/-- With its rows made columns the hook opens to the south, and somebody in its north-eastern end
sits in the south-western one. -/
theorem after_start_reflect_hook :
    Layout.ofLines ["LL", "L.", "LL"] = .ok hook ∧ 0 < hook.cols ∧
      Layout.ofLines ["LLL", "L.L"] = .ok (hook.reflect .diagonal) ∧
      (hook.reflect .diagonal).seated {⟨1, 0⟩} = (hook.seated {⟨0, 1⟩}).reflect .diagonal ∧
      ((start Mode.adjacent.rule ((hook.seated {⟨0, 1⟩}).reflect .diagonal)).after 1).current =
        ((start Mode.adjacent.rule (hook.seated {⟨0, 1⟩})).after 1).current.reflect .diagonal := by
  have hplan : Layout.ofLines ["LL", "L.", "LL"] = .ok hook := rfl
  have hcols : 0 < hook.cols := by decide
  obtain ⟨hread, hseated, hticks⟩ :=
    after_start_reflect .diagonal ["LL", "L.", "LL"] hook hplan hcols {⟨0, 1⟩}
  exact ⟨hplan, hcols, hread, hseated, ((hticks .adjacent).1 1).2⟩

end Simulation

end WaitingRoom
