import WaitingRoom.Proofs.Ticks

/-!
# Layouts that look alike

Two layouts may show the same and still differ in their tallies and in cells that belong to no
place. Nothing that people decide depends on such differences.

* **`Layout.Alike`**: the same size, and the same at every place. Counting and printing see no more
  than that (`Mode.occupied_congr`, `Layout.Alike.render`).
* **`Rule.CountsPeople`**: what a rule goes by is the same on layouts that look alike. Tracked rules
  do, and so do all rules with the counts of a mode.
* **`Rule.generation_congr`**: under such a rule the generations of layouts that look alike look
  alike.
* **`Simulation.current_after_restart`**: a new simulation of the latest generation goes on where
  the old one stood, tallies and surplus included.
-/

namespace WaitingRoom

namespace Layout

variable {g h k : Layout} {p : Position}

/-- Two layouts look alike when they have the same size and the same stands at every place. Their
tallies and their surplus may differ. -/
structure Alike (g h : Layout) : Prop where
  /-- The same number of rows. -/
  rows : g.rows = h.rows
  /-- The same number of places in each row. -/
  cols : g.cols = h.cols
  /-- The same stands at every place. -/
  spotAt : ∀ p, g.spotAt p = h.spotAt p

namespace Alike

/-- Looking alike goes both ways. -/
theorem symm (hgh : Alike g h) : Alike h g :=
  ⟨hgh.rows.symm, hgh.cols.symm, fun p => (hgh.spotAt p).symm⟩

/-- Looking alike carries over. -/
theorem trans (hgh : Alike g h) (hhk : Alike h k) : Alike g k :=
  ⟨hgh.rows.trans hhk.rows, hgh.cols.trans hhk.cols, fun p => (hgh.spotAt p).trans (hhk.spotAt p)⟩

/-- What looks alike has the same floor. -/
theorem sameFloor (hgh : Alike g h) : SameFloor g h :=
  ⟨hgh.rows, hgh.cols, isSeat_of_spotAt hgh.spotAt⟩

/-- In what looks alike the same positions are taken. -/
theorem isTaken (hgh : Alike g h) : g.isTaken = h.isTaken := by
  funext p
  rw [Layout.isTaken, Layout.isTaken, hgh.spotAt]

/-- So the same people are seated. -/
theorem takenPlaces (hgh : Alike g h) : g.takenPlaces = h.takenPlaces := by
  ext p
  rw [mem_takenPlaces, mem_takenPlaces, hgh.isTaken]

/-- Layouts that look alike are printed alike. -/
theorem render (hgh : Alike g h) : g.render = h.render := by
  have hrow : g.renderRow = h.renderRow := by
    funext row
    simp only [renderRow, hgh.cols, hgh.spotAt]
  rw [Layout.render, Layout.render, hgh.rows, hrow]

end Alike

/-- To see whether layouts look alike it is enough to look at the places. -/
theorem alike_iff_positions : Alike g h ↔
    g.rows = h.rows ∧ g.cols = h.cols ∧ ∀ p ∈ g.positions, g.spotAt p = h.spotAt p := by
  constructor
  · intro hgh
    exact ⟨hgh.rows, hgh.cols, fun p _ => hgh.spotAt p⟩
  · rintro ⟨hrows, hcols, hspot⟩
    refine ⟨hrows, hcols, ?_⟩
    intro p
    by_cases hp : p ∈ g
    · exact hspot p (mem_positions.2 hp)
    · rw [spotAt_of_not_mem hp, spotAt_of_not_mem (mt (mem_congr hrows hcols).2 hp)]

instance (g h : Layout) : Decidable (Alike g h) :=
  decidable_of_iff' _ alike_iff_positions

/-- Layouts of one floor look alike when the same people are seated. -/
theorem alike_of_takenPlaces (hfloor : SameFloor g h) (htaken : g.takenPlaces = h.takenPlaces) :
    Alike g h := by
  refine ⟨hfloor.rows, hfloor.cols, fun p => ?_⟩
  apply Spot.eq_of_flags (hfloor.isSeat p)
  have hp : p ∈ g.takenPlaces ↔ p ∈ h.takenPlaces := by rw [htaken]
  rw [mem_takenPlaces, mem_takenPlaces, ← Bool.eq_iff_iff] at hp
  exact hp

end Layout

/-- A mode counts the same on layouts that look alike. -/
theorem Mode.occupied_congr {g h : Layout} (hgh : g.Alike h) (m : Mode) (p : Position) :
    m.occupied g p = m.occupied h p := by
  rw [occupied, occupied, neighbors_congr hgh.sameFloor, Layout.occupiedAmong, Layout.occupiedAmong,
    hgh.isTaken]

namespace Layout

variable {g h : Layout}

/-- A recount depends on what stands where, and on nothing that was tallied before. -/
theorem recount_congr (hgh : Alike g h)
    (hsurplus : g.surplus.map Cell.clear = h.surplus.map Cell.clear) : g.recount = h.recount := by
  refine eq_of_views ?_ (fun p => ?_) (fun p => ?_)
  · rw [outline_recount, outline_recount, outline, outline, surplus_clearTallies,
      surplus_clearTallies, hsurplus]
    show (g.rows, g.cols, _) = (h.rows, h.cols, _)
    rw [hgh.rows, hgh.cols]
  · rw [spotAt_recount, spotAt_recount, hgh.spotAt]
  · have hcount : g.adjacentOccupied p = h.adjacentOccupied p := Mode.occupied_congr hgh .adjacent p
    rw [tallyAt_recount, tallyAt_recount, hgh.sameFloor.isSeat, hcount]

end Layout

namespace Rule

variable {r : Rule} {g h : Layout}

/-! ### Rules that count people -/

/-- What the rule goes by depends on what stands where alone. -/
def CountsPeople (r : Rule) : Prop :=
  ∀ g h : Layout, g.Alike h → ∀ p, r.fresh g p = r.fresh h p

/-- A tracked rule goes by the people around, whatever it would count itself. -/
theorem countsPeople_of_tracked (htracked : r.tracked = true) : r.CountsPeople := by
  intro g h hgh p
  rw [fresh, fresh, if_pos htracked, if_pos htracked]
  exact Mode.occupied_congr hgh .adjacent p

/-- Rules with the counts of a mode count people, whatever their threshold and decision. -/
theorem countsPeople_of_occupied (m : Mode) (hr : r.occupied = m.occupied) : r.CountsPeople := by
  cases htracked : r.tracked with
  | true => exact countsPeople_of_tracked htracked
  | false =>
    intro g h hgh p
    rw [fresh, fresh, htracked, hr]
    exact Mode.occupied_congr hgh m p

/-! ### Generations -/

/-- The next generations of layouts that look alike look alike. -/
theorem advance_congr (hr : r.CountsPeople) (hgh : g.Alike h) :
    (r.advance g).Alike (r.advance h) := by
  have hfloor : (r.advance g).SameFloor (r.advance h) :=
    (r.sameFloor_advance g).trans (hgh.sameFloor.trans (r.sameFloor_advance h).symm)
  apply Layout.alike_of_takenPlaces hfloor
  ext p
  rw [takenPlaces_advance, takenPlaces_advance, mem_nextTaken, mem_nextTaken, hgh.sameFloor.isSeat,
    hgh.isTaken, hr g h hgh p]

/-- What looks alike goes on looking alike. -/
theorem generation_congr (hr : r.CountsPeople) (hgh : g.Alike h) (k : Nat) :
    (r.generation g k).Alike (r.generation h k) := by
  induction k with
  | zero => exact hgh
  | succ k ih => exact advance_congr hr ih

/-! ### Stored generations -/

/-- A stored generation looks like the generation. -/
theorem alike_kept (r : Rule) (g : Layout) : (r.kept g).Alike g :=
  ⟨(r.sameFloor_kept g).rows, (r.sameFloor_kept g).cols, r.spotAt_kept g⟩

/-- Under a tracked rule, stored layouts that look alike have the same tallies. -/
theorem cached_kept_congr (htracked : r.tracked = true) (hgh : g.Alike h) (p : Position) :
    (r.kept g).cached p = (r.kept h).cached p := by
  have hcount : g.adjacentOccupied p = h.adjacentOccupied p := Mode.occupied_congr hgh .adjacent p
  rw [kept, kept, if_pos htracked, if_pos htracked, Layout.cached, Layout.cached,
    Layout.tallyAt_recount, Layout.tallyAt_recount, hgh.sameFloor.isSeat, hcount]

/-- Going on from a stored layout leads to the same stored generations as going on from the layout
itself. -/
theorem kept_generation_kept (r : Rule) (g : Layout) (k : Nat) :
    r.kept (r.generation (r.kept g) k) = r.kept (r.generation g k) := by
  cases htracked : r.tracked with
  | false =>
    have hkept : r.kept g = g := by rw [kept, htracked]; rfl
    rw [hkept]
  | true =>
    -- what is stored is recounted, so only what stands where is left of the start
    have hkept : ∀ h, r.kept h = h.recount := fun h => if_pos htracked
    have hlike := generation_congr (countsPeople_of_tracked htracked) (r.alike_kept g) k
    have hsurplus : (r.kept g).surplus = g.surplus.map Cell.clear := by
      rw [hkept, ← Layout.surplus_clearTallies]
      exact congrArg (fun o => o.2.2) g.outline_recount
    rw [hkept (r.generation _ k), hkept (r.generation _ k)]
    apply Layout.recount_congr hlike
    rw [surplus_generation, surplus_generation, hsurplus, List.map_map]
    rfl

end Rule

/-- Starting again with what a simulation leaves and going on is going on. -/
theorem Simulation.current_after_restart (r : Rule) (g : Layout) (j k : Nat) :
    ((start r ((start r g).after j).intoLayout).after k).current =
      ((start r g).after (j + k)).current := by
  rw [intoLayout_eq_current, current_after_start, current_after_start, current_after_start]
  rw [r.kept_generation_kept, r.generation_add]

end WaitingRoom
