import Mathlib.Algebra.BigOperators.Ring.Finset
import WaitingRoom.Proofs.Neighbors

/-!
# What the operations on tallies do

Each operation is read through what stands and what is tallied at a place, and through the surplus.

* **`Layout.tallyAt_foldl_creditSeat`**: credits given at distinct places reach the seats among them.
* **`Layout.tallyAt_announce`**, **`Layout.tallyAt_carryFrom`**: an announcement reaches the seats
  around, a carried count reaches its own place.
* **`Layout.tallyAt_recount`**: after a recount every seat has its count, and no other place has a
  tally. **`Layout.clearTallies_recount`**: forgetting leaves nothing of it.
* **`Layout.adjacentOccupied_eq_sum`**: counting as a sum over the places around, the form in which
  carried counts and announcements add up.
-/

namespace WaitingRoom

/-- Clearing twice is clearing once. -/
@[simp] theorem Cell.clear_clear (c : Cell) : c.clear.clear = c.clear := rfl

namespace Layout

variable {g h : Layout} {p q : Position}

/-! ### Forgetting -/

/-- Forgetting tallies moves nobody. -/
@[simp] theorem spotAt_clearTallies (g : Layout) (p : Position) :
    g.clearTallies.spotAt p = g.spotAt p := by
  unfold spotAt clearTallies
  rw [cell?_mapCells]
  cases g.cell? p <;> rfl

/-- Nothing is tallied afterwards. -/
@[simp] theorem tallyAt_clearTallies (g : Layout) (p : Position) : g.clearTallies.tallyAt p = 0 := by
  unfold tallyAt clearTallies
  rw [cell?_mapCells]
  cases g.cell? p <;> rfl

/-- The surplus is cleared too. -/
@[simp] theorem surplus_clearTallies (g : Layout) :
    g.clearTallies.surplus = g.surplus.map Cell.clear :=
  surplus_mapCells g Cell.clear

/-- Forgetting tallies moves no seat. -/
@[simp] theorem isSeat_clearTallies (g : Layout) (p : Position) :
    g.clearTallies.isSeat p = g.isSeat p := by
  rw [isSeat, spotAt_clearTallies, isSeat]

/-- Forgetting tallies leaves the floor as it is. -/
theorem sameFloor_clearTallies (g : Layout) : SameFloor g.clearTallies g :=
  ⟨rfl, rfl, g.isSeat_clearTallies⟩

/-! ### Credits -/

/-- Layouts that show the same have the same seats. -/
theorem isSeat_of_spotAt (hspot : ∀ p, g.spotAt p = h.spotAt p) (p : Position) :
    g.isSeat p = h.isSeat p := by
  rw [isSeat, isSeat, hspot]

/-- A credit moves no seat. -/
theorem isSeat_modify_creditSeat (g : Layout) (p q : Position) (n : Int) :
    (g.modify p (Cell.creditSeat n)).isSeat q = g.isSeat q :=
  isSeat_of_spotAt (spotAt_modify_of_spot (Cell.spot_creditSeat n) g p) q

/-- A credit leaves the floor as it is. -/
theorem sameFloor_modify_creditSeat (g : Layout) (p : Position) (n : Int) :
    (g.modify p (Cell.creditSeat n)).SameFloor g :=
  ⟨rows_modify g p _, cols_modify g p _, fun q => isSeat_modify_creditSeat g p q n⟩

/-- Credits given at distinct places reach the seats among them, each once. -/
theorem tallyAt_foldl_creditSeat (n : Position → Int) {ps : List Position} (hps : ps.Nodup)
    (g : Layout) (q : Position) :
    (ps.foldl (fun h p => h.modify p (Cell.creditSeat (n p))) g).tallyAt q =
      g.tallyAt q + if q ∈ ps ∧ g.isSeat q = true then n q else 0 := by
  induction ps generalizing g with
  | nil => simp
  | cons p ps ih =>
    obtain ⟨hp, hps⟩ := List.nodup_cons.1 hps
    rw [List.foldl_cons, ih hps, tallyAt_modify_creditSeat, isSeat_modify_creditSeat]
    by_cases hq : q = p
    · subst hq
      simp [hp]
    · simp [hq]

/-- A carried count arrives at its own place, inside the walls. -/
theorem tallyAt_carryFrom (g source : Layout) (p q : Position) :
    (g.carryFrom source p).tallyAt q =
      g.tallyAt q + if q = p ∧ q ∈ g then (source.cached p : Int) else 0 :=
  tallyAt_modify_credit g p q (source.cached p)

/-- Carrying a count moves nobody. -/
theorem spotAt_carryFrom (g source : Layout) (p q : Position) :
    (g.carryFrom source p).spotAt q = g.spotAt q :=
  spotAt_modify_of_spot (Cell.spot_credit _) g p q

/-- An announcement reaches the seats around, each once. -/
theorem tallyAt_announce (g : Layout) (p q : Position) (b : Bool) :
    (g.announce p b).tallyAt q =
      g.tallyAt q + if q ∈ g.adjacent p ∧ g.isSeat q = true then change b else 0 :=
  tallyAt_foldl_creditSeat (fun _ => change b) (Mode.adjacent.nodup_neighbors g p) g q

/-- An announcement moves nobody. -/
theorem spotAt_announce (g : Layout) (p q : Position) (b : Bool) :
    (g.announce p b).spotAt q = g.spotAt q :=
  spotAt_foldl_modify_of_spot _ (fun _ => Cell.spot_creditSeat _) _ g q

/-! ### Counting afresh -/

/-- Counting afresh leaves the outline that forgetting tallies leaves. -/
theorem outline_recount (g : Layout) : g.recount.outline = g.clearTallies.outline :=
  outline_foldl_modify _ _ _

/-- So the outline afterwards depends on the one before only. -/
theorem outline_recount_congr (hgh : g.outline = h.outline) :
    g.recount.outline = h.recount.outline := by
  simp only [outline, Prod.mk.injEq] at hgh
  rw [outline_recount, outline_recount]
  simp [outline, clearTallies, hgh]

/-- Counting afresh moves nobody. -/
@[simp] theorem spotAt_recount (g : Layout) (p : Position) : g.recount.spotAt p = g.spotAt p :=
  (spotAt_foldl_modify_of_spot _ (fun _ => Cell.spot_creditSeat _) _ _ p).trans
    (spotAt_clearTallies g p)

/-- After a recount the seats have their counts, and nothing else has a tally. -/
theorem tallyAt_recount (g : Layout) (q : Position) :
    g.recount.tallyAt q = if g.isSeat q = true then (g.adjacentOccupied q : Int) else 0 := by
  refine (tallyAt_foldl_creditSeat _ g.nodup_positions g.clearTallies q).trans ?_
  rw [tallyAt_clearTallies, isSeat_clearTallies, Int.zero_add]
  by_cases hq : g.isSeat q = true
  · rw [if_pos ⟨mem_positions.2 (mem_of_isSeat hq), hq⟩, if_pos hq]
  · rw [if_neg (fun h => hq h.2), if_neg hq]

/-- Forgetting undoes a recount. -/
theorem clearTallies_recount (g : Layout) : g.recount.clearTallies = g.clearTallies := by
  refine eq_of_views ?_ (fun p => by simp) (fun p => by simp)
  have hg := g.outline_recount
  simp only [outline, Prod.mk.injEq] at hg
  simp [outline, clearTallies, hg]

/-- Nor does it move a seat. -/
@[simp] theorem isSeat_recount (g : Layout) (p : Position) : g.recount.isSeat p = g.isSeat p :=
  isSeat_of_spotAt g.spotAt_recount p

/-- Whoever sat sits on. -/
@[simp] theorem isTaken_recount (g : Layout) (p : Position) : g.recount.isTaken p = g.isTaken p := by
  rw [isTaken, spotAt_recount, isTaken]

/-- The floor stays as it is. -/
theorem sameFloor_recount (g : Layout) : SameFloor g.recount g :=
  ⟨congrArg Prod.fst g.outline_recount, congrArg (fun o => o.2.1) g.outline_recount,
    g.isSeat_recount⟩

/-- On the same floor the same places are adjacent. -/
theorem adjacent_congr (hgh : SameFloor g h) (p : Position) : g.adjacent p = h.adjacent p :=
  Mode.neighbors_congr hgh .adjacent p

/-- There are at most eight places around. -/
theorem length_adjacent_le (g : Layout) (p : Position) : (g.adjacent p).length ≤ 8 :=
  calc (g.adjacent p).length
      ≤ (Direction.all.filterMap p.toward).length := List.length_filter_le _ _
    _ ≤ Direction.all.length := List.length_filterMap_le _ _

/-- There are at most eight people around. -/
theorem adjacentOccupied_le (g : Layout) (p : Position) : g.adjacentOccupied p ≤ 8 :=
  List.countP_le_length.trans (g.length_adjacent_le p)

/-- The people around are counted as a sum over the places around. -/
theorem adjacentOccupied_eq_sum (g : Layout) (p : Position) :
    (g.adjacentOccupied p : Int) =
      ∑ q ∈ Mode.adjacent.near g p, if g.isTaken q = true then 1 else 0 := by
  have hcard : g.adjacentOccupied p = (g.takenPlaces ∩ Mode.adjacent.near g p).card :=
    Mode.adjacent.occupied_eq_card g p
  have hset : g.takenPlaces ∩ Mode.adjacent.near g p =
      {q ∈ Mode.adjacent.near g p | g.isTaken q = true} := by
    ext q
    simp [and_comm]
  rw [hcard, hset, Finset.sum_boole]

end Layout

end WaitingRoom
