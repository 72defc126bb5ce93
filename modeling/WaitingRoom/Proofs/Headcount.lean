import WaitingRoom.Proofs.Answers
import WaitingRoom.Proofs.Relocation
import WaitingRoom.Proofs.Scripts

/-!
# Counting heads

The people in a room can be counted by the stored cells, by the places or by the marks of the printed
plan. Stored cells may belong to no place, but nobody ever gets there, so the three numbers agree.

* **`Layout.attempt`**: what an operation leaves of a layout, also when a sum overflows in it.
* **`Layout.Reachable`**: the layouts that can be had from rows by operations and from simulations
  under way. All of them are edits of what was built (`Layout.Reachable.built`).
* **`Layout.pairwise_positions`**: the places are listed row by row, and each row from west to east.
* **`Layout.count_render`**: a printed plan has a mark for everybody at a place.
* **`Layout.occupied_shown`**: the numbers agree, and the number printed below a plan is what the plan
  shows.
-/

namespace WaitingRoom

namespace Layout

variable {g : Layout}

/-! ### Reachable layouts -/

/-- The layout that an operation leaves. When a sum overflows, an announcement has been heard by the
seats that were told before, and any other operation has changed nothing. -/
def attempt (g : Layout) (operation : Operation) : Layout :=
  match g.perform operation, operation with
  | .ok h, _ => h
  | .error _, .announce p occupied => (g.checkedAnnounce p occupied).1
  | .error _, _ => g

/-- An attempt is an edit, even if it fails. -/
theorem edited_attempt (g : Layout) (operation : Operation) : g.Edited (g.attempt operation) := by
  unfold attempt
  split
  · next hperform => exact edited_perform hperform
  · next p occupied _ => exact Edited.refl.checkedAnnounceAlong p occupied Direction.all
  · exact .refl

/-- The layouts that can be had: those built from rows, refused ones included, what operations leave
of them, and both generations of any simulation under way. -/
inductive Reachable : Layout → Prop
  | build (rows : List (List Char)) : Reachable (rows.foldl Builder.push {}).build
  | attempt {g : Layout} (hg : Reachable g) (operation : Operation) :
    Reachable (g.attempt operation)
  | previous {g : Layout} (hg : Reachable g) (rule : Rule) (ticks : Nat) :
    Reachable ((Simulation.start rule g).after ticks).previous

namespace Reachable

/-- Layouts that can be had are what may become of rows. -/
theorem built (hg : g.Reachable) : g.Built := by
  induction hg with
  | build rows => exact .build rows
  | attempt _ operation ih => exact (edited_attempt _ operation).built ih
  | previous _ rule ticks ih => exact (Simulation.edited_previous rule _ ticks).built ih

/-- The latest generation can be had at any moment. -/
theorem current (hg : g.Reachable) (rule : Rule) (ticks : Nat) :
    ((Simulation.start rule g).after ticks).current.Reachable := by
  rw [← Simulation.intoLayout_eq_current]
  exact hg.attempt (.simulate rule ticks)

/-- A layout at rest is the current generation after its last tick. -/
theorem settle (hg : g.Reachable) {mode : Mode} {outcome : Outcome} {events : List Event}
    (hsettle : g.settle mode = some (outcome, events)) : outcome.layout.Reachable := by
  rw [layout_of_settle hsettle]
  exact hg.current mode.rule _

end Reachable

/-! ### Three ways to count -/

/-- The places are listed row by row, and each row from west to east. -/
theorem pairwise_positions (g : Layout) :
    g.positions.Pairwise fun p q => p.row < q.row ∨ p.row = q.row ∧ p.col < q.col := by
  rw [positions, List.pairwise_flatMap]
  constructor
  · intro row _
    rw [List.pairwise_map]
    exact List.pairwise_lt_range.imp fun hlt => .inr ⟨rfl, hlt⟩
  · refine List.pairwise_lt_range.imp fun {row row'} hlt p hp q hq => .inl ?_
    obtain ⟨col, -, rfl⟩ := List.mem_map.1 hp
    obtain ⟨col', -, rfl⟩ := List.mem_map.1 hq
    exact hlt

/-- A printed plan has the mark of a taken seat for everybody at a place. -/
theorem count_render (g : Layout) : g.render.toList.count '#' = g.takenPlaces.card := by
  have hends : ∀ rows : List (List Char),
      (rows.flatMap (· ++ ['\n'])).count '#' = rows.flatten.count '#' := by
    intro rows
    induction rows with
    | nil => rfl
    | cons row rows ih => simp [ih]
  rw [render_eq, Text.unlines, String.toList_ofList, hends, count_picture]

/-- **The number below a plan is what the plan shows.** In every layout that can be had, the number of
people is that of the places where somebody sits and that of the marks of taken seats in the printed
plan. The list of places has every place once and nothing else, row by row and each row from west to
east. So whenever a layout is reported, by hand or because it has come to rest, the number in the text
is that of the marks above it. -/
theorem occupied_shown (hg : g.Reachable) :
    g.occupied = g.positions.countP g.isTaken ∧ g.occupied = g.render.toList.count '#' ∧
      (∀ p, g.positions.count p = if p ∈ g then 1 else 0) ∧
      (g.positions.Pairwise fun p q => p.row < q.row ∨ p.row = q.row ∧ p.col < q.col) ∧
      ∀ outcome : Outcome,
        (outcome.layout = g ∨ ∃ mode events, g.settle mode = some (outcome, events)) →
          outcome.text = outcome.layout.render ++ "\nOccupied seats: " ++
            toString (outcome.layout.render.toList.count '#') := by
  refine ⟨?_, ?_, fun p => ?_, g.pairwise_positions, fun outcome houtcome => ?_⟩
  · rw [hg.built.occupied_eq_card, countP_positions_isTaken]
  · rw [hg.built.occupied_eq_card, count_render]
  · rw [g.nodup_positions.count]
    simp only [mem_positions]
  · have hreachable : outcome.layout.Reachable := by
      rcases houtcome with rfl | ⟨mode, events, hsettle⟩
      · exact hg
      · exact hg.settle hsettle
    rw [count_render, ← hreachable.built.occupied_eq_card]
    rfl

/-- The layout of patchy rows after an announcement that overflows and one tick. -/
def patchyRoom : Layout :=
  ((patchyRows.foldl Builder.push {}).build.attempt
    (.announce ⟨0, Position.maxCoordinate⟩ true)).attempt (.simulate Mode.adjacent.rule 1)

/-- Three people sit in the patchy room, and three marks are printed above the number. -/
theorem occupied_shown_patchyRoom :
    patchyRoom.Reachable ∧ patchyRoom.cells.size = 5 ∧ patchyRoom.occupied = 3 ∧
      patchyRoom.render.toList.count '#' = 3 ∧
      (⟨patchyRoom, .adjacent, 1⟩ : Outcome).text = "#.\n##\n\nOccupied seats: 3" := by
  have hreachable : patchyRoom.Reachable :=
    ((Reachable.build patchyRows).attempt _).attempt _
  have hoccupied : patchyRoom.occupied = 3 := by decide +kernel
  have hrender : patchyRoom.render = "#.\n##\n" := by decide +kernel
  obtain ⟨-, hshown, -, -, htext⟩ := occupied_shown hreachable
  refine ⟨hreachable, by decide +kernel, hoccupied, hshown.symm.trans hoccupied, ?_⟩
  rw [htext _ (.inl rfl), hrender]
  rfl

end Layout

end WaitingRoom
