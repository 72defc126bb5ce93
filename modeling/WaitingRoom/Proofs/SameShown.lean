import WaitingRoom.Proofs.Consistency
import WaitingRoom.Proofs.Headcount
import WaitingRoom.Proofs.RoundTrip

/-!
# Showing the same

Layouts are compared by the spots of their stored cells, one after another, up to the end of the shorter
list. Where every stored cell belongs to a place, that is a comparison of everything that can be seen.

* **`Layout.FromPlan`**: a plan that was accepted, and whatever is made of it.
* **`Layout.Trim`**: what all of these have in common. There is no surplus, and there are no columns
  without rows.
* **`Layout.Trim.sameSpots_iff_alike`**, **`Layout.Trim.render_eq_iff_alike`**: on such layouts the same
  spots are stored when the same stands everywhere, and the same is printed then.
* **`Layout.FromPlan.sameSpots_iff`**: the comparison, what is printed, and what two flags tell at each
  position. It is an equivalence, and leaves tallies out of account.
-/

namespace WaitingRoom

/-- No mark of a plan ends a line. -/
theorem Spot.mark_ne_newline (s : Spot) : s.mark ≠ '\n' ∧ s.mark ≠ '\r' := by
  cases s <;> decide

namespace Layout

variable {g h k : Layout} {p : Position}

/-! ### Plans in use -/

/-- The layouts that come from an accepted plan: what operations leave of it, failed ones too, and both
generations of any simulation under way. -/
inductive FromPlan : Layout → Prop
  | plan {lines : List String} {g : Layout} (hread : ofLines lines = .ok g) : FromPlan g
  | attempt {g : Layout} (hg : FromPlan g) (operation : Operation) : FromPlan (g.attempt operation)
  | previous {g : Layout} (hg : FromPlan g) (rule : Rule) (ticks : Nat) :
    FromPlan ((Simulation.start rule g).after ticks).previous

/-- Every stored cell belongs to a place, and there are no columns without rows. -/
structure Trim (g : Layout) : Prop where
  /-- As many cells as places. -/
  size : g.cells.size = g.rows * g.cols
  /-- No width without rows. -/
  cols : g.rows = 0 → g.cols = 0

/-- A layout that was read has no surplus, and no columns without rows. -/
theorem trim_of_ofLines {lines : List String} (hread : ofLines lines = .ok g) : g.Trim := by
  obtain ⟨hholds, hempty⟩ := holds_of_ofRows hread
  refine ⟨?_, fun hrows => hempty ?_⟩
  · rw [← Array.length_toList, hholds.cells, hholds.readable.length_flatMap_readableCells,
      hholds.rows]
  · rw [hholds.rows] at hrows
    exact List.length_eq_zero_iff.1 hrows

/-- Edits keep it so. -/
theorem Trim.edited (hg : g.Trim) (hh : g.Edited h) : h.Trim := by
  have hframe := hh.sameFrame
  refine ⟨?_, ?_⟩
  · rw [hframe.size, hframe.rows, hframe.cols, hg.size]
  · rw [hframe.rows, hframe.cols]
    exact hg.cols

/-- So it is with all layouts that come from plans. -/
theorem FromPlan.trim (hg : g.FromPlan) : g.Trim := by
  induction hg with
  | plan hread => exact trim_of_ofLines hread
  | attempt _ operation ih => exact ih.edited (edited_attempt _ operation)
  | previous _ rule ticks ih => exact ih.edited (Simulation.edited_previous rule _ ticks)

/-! ### What is seen of a layout -/

/-- A layout shows what it shows. -/
theorem SameSpots.refl (g : Layout) : g.SameSpots g := by
  refine sameSpots_iff_getElem?.2 ⟨rfl, rfl, fun i c d hc hd => ?_⟩
  rw [hc, Option.some.injEq] at hd
  rw [hd]

/-- The comparison looks at the stored spots that both layouts have. -/
theorem sameSpots_iff_spots :
    g.SameSpots h ↔ g.rows = h.rows ∧ g.cols = h.cols ∧ ∀ (i : Nat) (s t : Spot),
      (g.cells.map Cell.spot)[i]? = some s → (h.cells.map Cell.spot)[i]? = some t → s = t := by
  rw [sameSpots_iff_getElem?]
  refine and_congr_right fun _ => and_congr_right fun _ => forall_congr' fun i => ?_
  rw [Array.getElem?_map, Array.getElem?_map]
  cases g.cells[i]? <;> cases h.cells[i]? <;> simp

/-- The comparison depends on sizes and spots alone. -/
theorem sameSpots_congr {g' h' : Layout} (hg : g.rows = g'.rows ∧ g.cols = g'.cols ∧
    g.cells.map Cell.spot = g'.cells.map Cell.spot) (hh : h.rows = h'.rows ∧ h.cols = h'.cols ∧
    h.cells.map Cell.spot = h'.cells.map Cell.spot) : g.SameSpots h ↔ g'.SameSpots h' := by
  rw [sameSpots_iff_spots, sameSpots_iff_spots, hg.1, hg.2.1, hg.2.2, hh.1, hh.2.1, hh.2.2]

/-- Without surplus, the same spots are stored when the same stands everywhere. -/
theorem Trim.sameSpots_iff_alike (hg : g.Trim) : g.SameSpots h ↔ g.Alike h := by
  rw [sameSpots_iff_getElem?]
  constructor
  · rintro ⟨hrows, hcols, hall⟩
    refine alike_iff_positions.2 ⟨hrows, hcols, fun p hp => ?_⟩
    rw [mem_positions] at hp
    obtain ⟨c, hc⟩ := exists_cell?_eq hp
    obtain ⟨d, hd⟩ := exists_cell?_eq ((mem_congr hrows hcols).1 hp)
    rw [spotAt_of_cell? hc, spotAt_of_cell? hd]
    rw [cell?_of_mem hp] at hc
    rw [cell?_eq_getElem?_index hrows hcols hp] at hd
    exact hall _ c d hc hd
  · rintro ⟨hrows, hcols, hspot⟩
    refine ⟨hrows, hcols, fun i c d hc hd => ?_⟩
    have hi : i < g.rows * g.cols := by
      rw [← hg.size]
      exact (Array.getElem?_eq_some_iff.1 hc).1
    obtain ⟨p, hp, rfl⟩ := exists_index_eq hi
    rw [← cell?_of_mem hp] at hc
    rw [← cell?_eq_getElem?_index hrows hcols hp] at hd
    rw [← spotAt_of_cell? hc, ← spotAt_of_cell? hd, hspot]

/-- Layouts look alike when their sizes and the flags at all positions are the same. -/
theorem alike_iff_flags :
    g.Alike h ↔ g.rows = h.rows ∧ g.cols = h.cols ∧
      ∀ p, (g.cell? p).map Cell.flags = (h.cell? p).map Cell.flags := by
  have hplace : g.rows = h.rows → g.cols = h.cols → ∀ p, g.spotAt p = h.spotAt p ↔
      (g.cell? p).map Cell.flags = (h.cell? p).map Cell.flags := by
    intro hrows hcols p
    have hmem : p ∈ g ↔ p ∈ h := mem_congr hrows hcols
    by_cases hp : p ∈ g
    · rw [cell?_eq_views hp, cell?_eq_views (hmem.1 hp), Option.map_some, Option.map_some,
        Option.some.injEq, Cell.flags_eq_iff]
    · rw [cell?_of_not_mem hp, cell?_of_not_mem (mt hmem.2 hp), spotAt_of_not_mem hp,
        spotAt_of_not_mem (mt hmem.2 hp)]
      exact iff_of_true rfl rfl
  constructor
  · rintro ⟨hrows, hcols, hspot⟩
    exact ⟨hrows, hcols, fun p => (hplace hrows hcols p).1 (hspot p)⟩
  · rintro ⟨hrows, hcols, hflags⟩
    exact ⟨hrows, hcols, fun p => (hplace hrows hcols p).2 (hflags p)⟩

/-! ### What is printed -/

/-- What is printed has the rows of the picture as its lines. -/
theorem charLines_render (g : Layout) : Text.charLines g.render = g.picture := by
  rw [render_eq, Text.charLines, Text.unlines, String.toList_ofList]
  apply Text.lines_flatMap
  intro row hrow
  obtain ⟨i, -, rfl⟩ := List.mem_map.1 hrow
  constructor
  all_goals
    intro hmark
    obtain ⟨j, -, hj⟩ := List.mem_map.1 hmark
  · exact (Spot.mark_ne_newline _).1 hj
  · exact (Spot.mark_ne_newline _).2 hj

/-- The rows of a picture are as long as the layout is wide. -/
theorem length_of_mem_picture {row : List Char} (hrow : row ∈ g.picture) : row.length = g.cols := by
  obtain ⟨i, -, rfl⟩ := List.mem_map.1 hrow
  rw [renderRow, List.length_map, List.length_range]

/-- A picture has the rows of the layout. -/
theorem length_picture (g : Layout) : g.picture.length = g.rows := by
  rw [picture, List.length_map, List.length_range]

/-- A picture tells the size of a layout, if there are no columns without rows, and what stands at each
place. -/
theorem Trim.picture_eq_iff_alike (hg : g.Trim) (hh : h.Trim) :
    g.picture = h.picture ↔ g.Alike h := by
  constructor
  · intro hpicture
    have hrows : g.rows = h.rows := by rw [← length_picture, hpicture, length_picture]
    have hcols : g.cols = h.cols := by
      rcases Nat.eq_zero_or_pos g.rows with hzero | hpos
      · rw [hg.cols hzero, hh.cols (hrows.symm.trans hzero)]
      · rw [← length_picture] at hpos
        obtain ⟨row, hrow⟩ := List.exists_mem_of_length_pos hpos
        rw [← length_of_mem_picture hrow]
        rw [hpicture] at hrow
        exact length_of_mem_picture hrow
    have hpositions : h.positions = g.positions := by rw [positions, positions, hrows, hcols]
    have hmarks := congrArg List.flatten hpicture
    rw [flatten_picture, flatten_picture, hpositions, List.map_inj_left] at hmarks
    exact alike_iff_positions.2 ⟨hrows, hcols, fun p hp => Spot.mark_injective (hmarks p hp)⟩
  · intro halike
    rw [← charLines_render, halike.render, charLines_render]

/-- Layouts from plans are printed alike when they look alike. -/
theorem Trim.render_eq_iff_alike (hg : g.Trim) (hh : h.Trim) : g.render = h.render ↔ g.Alike h := by
  rw [← hg.picture_eq_iff_alike hh]
  constructor
  · intro hrender
    rw [← charLines_render, hrender, charLines_render]
  · intro hpicture
    rw [render_eq, render_eq, hpicture]

/-- **Showing the same.** Of two layouts that come from plans, the same spots are stored exactly when the
same is printed of both, and exactly when they have the same size and the two flags of a cell tell the
same at every position. That is an equivalence, it depends on sizes and spots alone, so that no tally
matters, and equal layouts show the same. -/
theorem FromPlan.sameSpots_iff :
    (∀ g h : Layout, g.FromPlan → h.FromPlan →
      (g.SameSpots h ↔ g.render = h.render) ∧
        (g.SameSpots h ↔ g.rows = h.rows ∧ g.cols = h.cols ∧
          ∀ p, (g.cell? p).map Cell.flags = (h.cell? p).map Cell.flags)) ∧
      (Equivalence fun g h : {g : Layout // g.FromPlan} => g.1.SameSpots h.1) ∧
      (∀ g g' h h' : Layout,
        (g.rows = g'.rows ∧ g.cols = g'.cols ∧ g.cells.map Cell.spot = g'.cells.map Cell.spot) →
        (h.rows = h'.rows ∧ h.cols = h'.cols ∧ h.cells.map Cell.spot = h'.cells.map Cell.spot) →
        (g.SameSpots h ↔ g'.SameSpots h')) ∧
      ∀ g h : Layout, g = h → g.SameSpots h := by
  have halike : ∀ g h : Layout, g.FromPlan → (g.SameSpots h ↔ g.Alike h) :=
    fun g h hg => hg.trim.sameSpots_iff_alike
  refine ⟨fun g h hg hh => ⟨?_, ?_⟩, ⟨fun g => .refl g.1, ?_, ?_⟩, fun g g' h h' => sameSpots_congr,
    fun g h heq => heq ▸ .refl g⟩
  · rw [halike g h hg, hg.trim.render_eq_iff_alike hh.trim]
  · rw [halike g h hg, alike_iff_flags]
  · rintro ⟨g, hg⟩ ⟨h, hh⟩ hsame
    exact (halike h g hh).2 ((halike g h hg).1 hsame).symm
  · rintro ⟨g, hg⟩ ⟨h, hh⟩ ⟨k, hk⟩ hgh hhk
    exact (halike g k hg).2 (((halike g h hg).1 hgh).trans ((halike h k hh).1 hhk))

/-- A bench on which somebody sits shows the same whether or not the seat beside has been told. -/
theorem FromPlan.sameSpots_iff_benchForTwo :
    let quiet := benchForTwo.attempt (.occupy ⟨0, 0⟩ true)
    let told := quiet.attempt (.announce ⟨0, 0⟩ true)
    quiet.FromPlan ∧ told.FromPlan ∧ told ≠ quiet ∧ quiet.render = told.render ∧
      quiet.SameSpots told ∧
      ∀ p, (quiet.cell? p).map Cell.flags = (told.cell? p).map Cell.flags := by
  intro quiet told
  have hread : ofLines ["LL"] = .ok benchForTwo := rfl
  have hquiet : quiet.FromPlan := (FromPlan.plan hread).attempt _
  have htold : told.FromPlan := hquiet.attempt _
  have hrender : quiet.render = told.render := by decide +kernel
  obtain ⟨hprint, hflags⟩ := FromPlan.sameSpots_iff.1 quiet told hquiet htold
  have hsame := hprint.2 hrender
  exact ⟨hquiet, htold, by decide +kernel, hrender, hsame, (hflags.1 hsame).2.2⟩

end Layout

end WaitingRoom
