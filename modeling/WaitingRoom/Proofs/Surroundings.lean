import WaitingRoom.Proofs.LinesOfSight

/-!
# The places around

The eight directions are tried one after another, once to list the places around a position and once
more to tell the seats there. Both come to the same places, and neither the walls nor a position
outside of them makes a difference.

* **`Position.exists_toward_iff`**: one step leads to whatever is one step away, so the places around
  are those at distance one (`Layout.mem_adjacent_iff_steps`).
* **`Layout.pairwise_adjacent`**: they are listed in reading order, as the directions are.
* **`Layout.cell?_announce`**, **`Layout.getElem?_announce_ne_iff`**: which cells an announcement
  touches, among those of places and among those stored.
* **`Layout.adjacent_exact`**: what is around a position, and what an announcement from it does.
-/

namespace WaitingRoom

/-- The directions lead to positions in reading order. -/
theorem Direction.pairwise_all : all.Pairwise fun d e =>
    d.rowShift < e.rowShift ∨ d.rowShift = e.rowShift ∧ d.colShift < e.colShift := by
  decide

namespace Position

variable {p q : Position}

/-- The way back takes as many steps. -/
theorem steps_comm (p q : Position) : p.steps q = q.steps p := by
  unfold steps
  omega

/-- A step in some direction leads to a position exactly when it is one step away. -/
theorem exists_toward_iff : (∃ d, p.toward d = some q) ↔ p.steps q = 1 := by
  simp only [toward_eq_some_iff_ahead]
  constructor
  · rintro ⟨d, hahead⟩
    exact hahead.steps_eq
  · intro hsteps
    have haligned : p.Aligned q := by
      unfold steps at hsteps
      unfold Aligned
      omega
    have hne : q ≠ p := by
      rintro rfl
      rw [steps_self] at hsteps
      cases hsteps
    obtain ⟨-, d, hahead⟩ := haligned.exists_ahead hne
    rw [hsteps] at hahead
    exact ⟨d, hahead⟩

end Position

namespace Layout

variable {g : Layout} {p q : Position} {b : Bool} {i : Nat}

/-! ### What is around -/

/-- The adjacent places are those at one step. -/
theorem mem_adjacent_iff_steps : q ∈ g.adjacent p ↔ q ∈ g ∧ p.steps q = 1 := by
  rw [mem_adjacent, Position.exists_toward_iff]

/-- Places of one layout are around each other. Seats need not stand there. -/
theorem mem_adjacent_comm (hp : p ∈ g) (hq : q ∈ g) : q ∈ g.adjacent p ↔ p ∈ g.adjacent q := by
  rw [mem_adjacent_iff_steps, mem_adjacent_iff_steps, p.steps_comm, and_iff_right hp,
    and_iff_right hq]

/-- The places around are listed row by row, and each row from west to east. -/
theorem pairwise_adjacent (g : Layout) (p : Position) :
    (g.adjacent p).Pairwise fun q s => q.row < s.row ∨ q.row = s.row ∧ q.col < s.col := by
  apply List.Pairwise.filter
  apply Direction.pairwise_all.filterMap
  intro d e hde q hq s hs
  obtain ⟨hqrow, hqcol⟩ := Position.toward_eq_some_iff.1 hq
  obtain ⟨hsrow, hscol⟩ := Position.toward_eq_some_iff.1 hs
  omega

/-! ### What an announcement touches -/

/-- A seat around is credited with the change, and any other place keeps its cell. -/
theorem cell?_announce (g : Layout) (p q : Position) (b : Bool) :
    (g.announce p b).cell? q =
      if q ∈ g.adjacent p ∧ g.isSeat q = true then (g.cell? q).map (Cell.credit (change b))
      else g.cell? q := by
  have hnodup : (g.adjacent p).Nodup := Mode.adjacent.nodup_neighbors g p
  refine (cell?_foldl_modify (fun _ => Cell.creditSeat (change b)) hnodup g q).trans ?_
  by_cases hq : q ∈ g.adjacent p
  · obtain ⟨c, hc⟩ := exists_cell?_eq (mem_adjacent.1 hq).1
    simp only [hq, if_true, true_and, hc, Option.map_some, isSeat, spotAt_of_cell? hc,
      Cell.creditSeat]
    split <;> rfl
  · rw [if_neg hq, if_neg fun h => hq h.1]

/-- An announcement changes the adjacent seats and nothing else. -/
theorem cell?_announce_ne_iff :
    (g.announce p b).cell? q ≠ g.cell? q ↔ q ∈ g.adjacent p ∧ g.isSeat q = true := by
  rw [cell?_announce]
  by_cases htold : q ∈ g.adjacent p ∧ g.isSeat q = true
  · obtain ⟨c, hc⟩ := exists_cell?_eq (mem_of_isSeat htold.2)
    have hchange : change b ≠ 0 := by cases b <;> decide
    simp [htold, hc, Cell.ext_iff, hchange]
  · simp [htold]

/-- The stored cells that an announcement changes are those of the seats around. -/
theorem getElem?_announce_ne_iff :
    (g.announce p b).cells[i]? ≠ g.cells[i]? ↔
      ∃ q ∈ g.adjacent p, g.isSeat q = true ∧ g.index q = i := by
  have houtline : (g.announce p b).outline = g.outline := outline_foldl_modify _ _ g
  rw [ne_comm, getElem?_cells_ne_iff houtline.symm]
  constructor
  · rintro ⟨q, -, hindex, hne⟩
    obtain ⟨hq, hseat⟩ := cell?_announce_ne_iff.1 hne.symm
    exact ⟨q, hq, hseat, hindex⟩
  · rintro ⟨q, hq, hseat, hindex⟩
    exact ⟨q, mem_of_isSeat hseat, hindex, (cell?_announce_ne_iff.2 ⟨hq, hseat⟩).symm⟩

/-- **What is around a position.** Let both coordinates of a position be less than the largest there
is; it may lie inside the walls or not. Then looking around with machine words has a result: each
place of the layout that is one step away, by the larger of the distances in rows and in columns, is
listed once, and nothing else, in reading order. Of two places the one is around the other if the
other is around it. An announcement changes the stored cells of the seats among the places around and
no others, and each of them once, by what somebody sitting down or leaving adds. With machine words it
does the same as long as there is room for the change in all tallies around, and otherwise ends with
the first tally that overflows, when the seats before it have been told. -/
theorem adjacent_exact (g : Layout) {p : Position} (hrow : p.row < Position.maxCoordinate)
    (hcol : p.col < Position.maxCoordinate) :
    g.checkedAdjacent p = .ok (g.adjacent p) ∧
      (g.adjacent p).Nodup ∧
      (∀ q, q ∈ g.adjacent p ↔
        q ∈ g ∧ max ((q.row : Int) - p.row).natAbs ((q.col : Int) - p.col).natAbs = 1) ∧
      ((g.adjacent p).Pairwise fun q s => q.row < s.row ∨ q.row = s.row ∧ q.col < s.col) ∧
      (p ∈ g → ∀ q ∈ g, q ∈ g.adjacent p ↔ p ∈ g.adjacent q) ∧
      ∀ b,
        (∀ i, (g.announce p b).cells[i]? ≠ g.cells[i]? ↔
          ∃ q ∈ g.adjacent p, g.isSeat q = true ∧ g.index q = i) ∧
        (∀ q ∈ g.adjacent p, g.isSeat q = true →
          (g.announce p b).cell? q = (g.cell? q).map (Cell.credit (if b = true then 1 else -1))) ∧
        g.checkedAnnounce p b =
          if ∀ q ∈ g.adjacent p, g.HasRoom b q then (g.announce p b, .ok ())
          else (g.tell b ((g.adjacent p).takeWhile (g.HasRoom b ·)), .error .tally) := by
  have hsteps : ∀ d, p.step d = .ok (p.toward d) := Position.step_eq hrow hcol
  refine ⟨checkedAdjacent_of_steps hsteps, Mode.adjacent.nodup_neighbors g p,
    fun q => mem_adjacent_iff_steps, g.pairwise_adjacent p, fun hp q hq => mem_adjacent_comm hp hq,
    fun b => ⟨fun i => getElem?_announce_ne_iff, fun q hq hseat => ?_,
      checkedAnnounce_of_steps hsteps g b⟩⟩
  rw [cell?_announce, if_pos ⟨hq, hseat⟩]
  rfl

/-- Two rows with floor in a corner and the largest tally there is in the opposite one. A seat of a
refused row is stored behind them. -/
def annex : Layout :=
  ([['L', 'L'], ['.', 'L'], ['L', 'x']].foldl Builder.push {}).build.modify ⟨1, 1⟩
    (Cell.credit 0x7fffffffffffffff)

/-- From beyond the eastern wall two places are around. Whoever leaves there is heard by both seats,
and whoever sits down is heard by the first only. Of the three places around the western corner the
floor hears nothing, and neither does the seat behind the rows. -/
theorem adjacent_exact_annex :
    ((⟨0, 2⟩ : Position).row < Position.maxCoordinate ∧
        (⟨0, 2⟩ : Position).col < Position.maxCoordinate) ∧
      annex.checkedAdjacent ⟨0, 2⟩ = .ok [⟨0, 1⟩, ⟨1, 1⟩] ∧
      annex.checkedAnnounce ⟨0, 2⟩ false = (annex.announce ⟨0, 2⟩ false, .ok ()) ∧
      annex.checkedAnnounce ⟨0, 2⟩ true = (annex.tell true [⟨0, 1⟩], .error .tally) ∧
      annex.cells.size = 5 ∧
      annex.checkedAdjacent ⟨0, 0⟩ = .ok [⟨0, 1⟩, ⟨1, 0⟩, ⟨1, 1⟩] ∧
      ∀ i, (annex.announce ⟨0, 0⟩ true).cells[i]? ≠ annex.cells[i]? ↔ i = 1 ∨ i = 3 := by
  have hbeyond : (⟨0, 2⟩ : Position).row < Position.maxCoordinate ∧
      (⟨0, 2⟩ : Position).col < Position.maxCoordinate := by decide
  have hcorner : (⟨0, 0⟩ : Position).row < Position.maxCoordinate ∧
      (⟨0, 0⟩ : Position).col < Position.maxCoordinate := by decide
  obtain ⟨hlist, -, -, -, -, htelling⟩ := adjacent_exact annex hbeyond.1 hbeyond.2
  obtain ⟨hlist', -, -, -, -, htelling'⟩ := adjacent_exact annex hcorner.1 hcorner.2
  obtain ⟨-, -, hleft⟩ := htelling false
  obtain ⟨-, -, hseated⟩ := htelling true
  obtain ⟨hchanged, -, -⟩ := htelling' true
  have haround : annex.adjacent ⟨0, 2⟩ = [⟨0, 1⟩, ⟨1, 1⟩] := by decide +kernel
  have haround' : annex.adjacent ⟨0, 0⟩ = [⟨0, 1⟩, ⟨1, 0⟩, ⟨1, 1⟩] := by decide +kernel
  refine ⟨hbeyond, hlist.trans (congrArg _ haround), hleft.trans (if_pos (by decide +kernel)),
    hseated.trans ((if_neg (by decide +kernel)).trans ?_), by decide +kernel,
    hlist'.trans (congrArg _ haround'), fun i => ?_⟩
  · have htold : (annex.adjacent ⟨0, 2⟩).takeWhile (annex.HasRoom true ·) = [⟨0, 1⟩] := by
      decide +kernel
    rw [htold]
  · have hseats : annex.isSeat ⟨0, 1⟩ = true ∧ annex.isSeat ⟨1, 0⟩ = false ∧
        annex.isSeat ⟨1, 1⟩ = true := by decide +kernel
    have hindex : annex.index ⟨0, 1⟩ = 1 ∧ annex.index ⟨1, 1⟩ = 3 := by decide +kernel
    rw [hchanged, haround']
    constructor
    · rintro ⟨q, hq, hseat, rfl⟩
      simp only [List.mem_cons, List.not_mem_nil, or_false] at hq
      rcases hq with rfl | rfl | rfl
      · exact .inl hindex.1
      · rw [hseats.2.1] at hseat
        cases hseat
      · exact .inr hindex.2
    · rintro (rfl | rfl)
      · exact ⟨⟨0, 1⟩, by decide, hseats.1, hindex.1⟩
      · exact ⟨⟨1, 1⟩, by decide, hseats.2.2, hindex.2⟩

end Layout

end WaitingRoom
