import Mathlib.Logic.Function.Iterate
import WaitingRoom.Layout.Builder
import WaitingRoom.Proofs.Generations

/-!
# Tick after tick

The state of a simulation after any number of ticks, and what it says of tallies and of people.

* **`Simulation.after`**: the simulation after so many ticks. **`Simulation.after_start`** gives its
  whole state: the generation reached and the one before, each as it is stored.
* **`Layout.TalliesExact`**, **`Layout.NoTallies`**: the invariant of the two buffers under a tracked
  rule. It holds between any two ticks (`Simulation.talliesExact_after_start`).
* **`Layout.synchronous`**: the usual decision for all seats at once, on sets of taken places. The
  people seated after `k` ticks are its `k`-th iterate, whether ticks count afresh or keep tallies
  (`Simulation.takenPlaces_after_start_standard`).
-/

namespace WaitingRoom

/-! ### The state after any number of ticks -/

namespace Simulation

/-- The simulation after `k` more ticks. -/
def after (s : Simulation) : Nat → Simulation
  | 0 => s
  | k + 1 => (s.after k).tick.1

/-- The first of many ticks may be made first. -/
theorem after_tick (s : Simulation) (k : Nat) : s.tick.1.after k = s.after (k + 1) := by
  induction k with
  | zero => rfl
  | succ k ih => rw [after, ih, ← after]

/-- Ticks add up. -/
theorem after_add (s : Simulation) (j k : Nat) : s.after (j + k) = (s.after j).after k := by
  induction k with
  | zero => rfl
  | succ k ih => rw [← Nat.add_assoc, after, ih, after]

/-- The whole state after `k` ticks: the generation reached and the one before, in the buffers where
`k` ticks put them. -/
theorem after_start (r : Rule) (g : Layout) (k : Nat) :
    (start r g).after k =
      stored r (r.kept (r.generation g k)) (r.spare (r.generation g (k - 1))) k := by
  induction k with
  | zero => exact start_eq_stored r g
  | succ k ih =>
    obtain ⟨X, hX⟩ := r.exists_seated_eq_generation g (k - 1) k
    rw [after, ih, hX, r.tick_kept]
    rfl

/-- The tick after `k` ticks, and the number of seats that it changes. -/
theorem tick_after_start (r : Rule) (g : Layout) (k : Nat) :
    ((start r g).after k).tick =
      (stored r (r.kept (r.generation g (k + 1))) (r.spare (r.generation g k)) (k + 1),
        g.positions.countP fun p =>
          (r.generation g (k + 1)).isTaken p ≠ (r.generation g k).isTaken p) := by
  obtain ⟨X, hX⟩ := r.exists_seated_eq_generation g (k - 1) k
  rw [after_start, hX, r.tick_kept, (r.sameFloor_generation g k).positions]
  rfl

/-- A tick changes the seats that are taken in one of two generations in a row only. -/
theorem tick_eq_card_symmDiff (r : Rule) (g : Layout) (k : Nat) :
    ((start r g).after k).tick.2 =
      (symmDiff (r.generation g (k + 1)).takenPlaces (r.generation g k).takenPlaces).card := by
  have hfloor : (r.generation g (k + 1)).SameFloor (r.generation g k) := r.sameFloor_advance _
  rw [tick_after_start, ← (r.sameFloor_generation g (k + 1)).positions]
  exact Layout.countP_isTaken_ne hfloor

/-- After `k` ticks the latest generation is the `k`-th one. -/
theorem current_after_start (r : Rule) (g : Layout) (k : Nat) :
    ((start r g).after k).current = r.kept (r.generation g k) := by
  rw [after_start, current_stored]

/-- The other buffer has the one before it, or the first one at the start. -/
theorem previous_after_start (r : Rule) (g : Layout) (k : Nat) :
    ((start r g).after k).previous = r.spare (r.generation g (k - 1)) := by
  rw [after_start, previous_stored]

/-- Ticks leave the floor alone. -/
theorem sameFloor_current_after (r : Rule) (g : Layout) (k : Nat) :
    ((start r g).after k).current.SameFloor g := by
  rw [current_after_start]
  exact (r.sameFloor_kept _).trans (r.sameFloor_generation g k)

/-- Where there is no surplus there never is. -/
theorem surplus_current_after (r : Rule) {g : Layout} (hg : g.surplus = []) (k : Nat) :
    ((start r g).after k).current.surplus = [] := by
  have hspots := r.surplus_spots_kept (r.generation g k)
  rw [r.surplus_generation, hg, List.map_nil, List.map_eq_nil_iff] at hspots
  rw [current_after_start, hspots]

end Simulation

/-! ### Tallies -/

namespace Layout

variable {g : Layout}

/-- Every seat has the number of taken seats around it as its tally, and no other stored cell has a
tally, neither floor nor surplus. -/
structure TalliesExact (g : Layout) : Prop where
  /-- The tally of a seat is its count, sign included. -/
  seat : ∀ p ∈ g, g.isSeat p = true → g.tallyAt p = g.adjacentOccupied p
  /-- A stored cell that is no seat of a place has no tally. -/
  other : ∀ (i : Nat) (c : Cell), g.cells[i]? = some c →
    (∀ p ∈ g, g.isSeat p = true → g.index p ≠ i) → c.tally = 0

/-- No stored cell has a tally. -/
def NoTallies (g : Layout) : Prop := ∀ c ∈ g.cells, c.tally = 0

/-- Tallies are exact after counting. -/
theorem talliesExact_recount (g : Layout) : g.recount.TalliesExact := by
  refine ⟨fun p _ hp => ?_, fun i c hc hother => ?_⟩
  · have hcount : g.recount.adjacentOccupied p = g.adjacentOccupied p := by
      rw [adjacentOccupied, adjacentOccupied, adjacent_congr g.sameFloor_recount, occupiedAmong,
        occupiedAmong, funext g.isTaken_recount]
    rw [isSeat_recount] at hp
    rw [tallyAt_recount, if_pos hp, hcount]
  · rcases place_or_surplus hc with ⟨p, hmem, rfl, hcell⟩ | hsurplus
    · -- the cell of a place: it must be floor
      have hfloor : ¬g.isSeat p = true := by
        intro hseat
        exact hother p hmem (by rwa [isSeat_recount]) rfl
      rw [← tallyAt_of_cell? hcell, tallyAt_recount, if_neg hfloor]
    · have hcleared : g.recount.surplus = g.clearTallies.surplus :=
        congrArg (fun o => o.2.2) g.outline_recount
      rw [hcleared, surplus_clearTallies] at hsurplus
      obtain ⟨c', -, rfl⟩ := List.mem_map.1 hsurplus
      exact c'.tally_clear

/-- There are no tallies after forgetting them. -/
theorem noTallies_clearTallies (g : Layout) : g.clearTallies.NoTallies := by
  intro c hc
  obtain ⟨c', -, rfl⟩ := Array.mem_map.1 hc
  exact c'.tally_clear

/-- Exact tallies are never below zero, so what is read of them is what is stored. -/
theorem TalliesExact.cached_eq (hg : g.TalliesExact) (p : Position) :
    (g.cached p : Int) = g.tallyAt p := by
  have hnonneg : 0 ≤ g.tallyAt p := by
    by_cases hmem : p ∈ g
    · by_cases hp : g.isSeat p = true
      · rw [hg.seat p hmem hp]
        exact Int.natCast_nonneg _
      · obtain ⟨c, hc⟩ := exists_cell?_eq hmem
        rw [tallyAt_of_cell? hc, hg.other (g.index p) c (by rwa [← cell?_of_mem hmem])]
        intro q hq hseat heq
        rw [index_inj hq hmem heq] at hseat
        exact hp hseat
    · rw [tallyAt_of_not_mem hmem]
  exact Int.toNat_of_nonneg hnonneg

end Layout

namespace Simulation

/-- **Tallies stay exact.** Under a tracked rule, after any number of ticks from any layout, whatever
tallies it brought along: the tallies of the latest generation are exact, the other buffer has none,
and no tally that a tick reads is cut off at zero. -/
theorem talliesExact_after_start (r : Rule) (htracked : r.tracked = true) (g : Layout) (k : Nat) :
    ((start r g).after k).current.TalliesExact ∧ ((start r g).after k).previous.NoTallies ∧
      ∀ p, (((start r g).after k).current.cached p : Int) =
        ((start r g).after k).current.tallyAt p := by
  have hcurrent : ((start r g).after k).current.TalliesExact := by
    rw [current_after_start, Rule.kept, if_pos htracked]
    exact Layout.talliesExact_recount _
  refine ⟨hcurrent, ?_, hcurrent.cached_eq⟩
  rw [previous_after_start, Rule.spare, if_pos htracked]
  exact Layout.noTallies_clearTallies _

/-- A bench of two with a surplus seat from a refused row, and tallies that are wrong and negative. -/
def crookedBench : Layout :=
  (((({} : Builder).push ['L', 'L']).push ['L', 'x']).build.occupy ⟨0, 0⟩ true).announce ⟨0, 0⟩ false

/-- Three ticks after the start nothing is left of the wrong tally. -/
theorem talliesExact_after_crookedBench :
    Mode.adjacent.rule.tracked = true ∧ crookedBench.tallyAt ⟨0, 1⟩ = -1 ∧
      ((start Mode.adjacent.rule crookedBench).after 3).current.TalliesExact ∧
      ((start Mode.adjacent.rule crookedBench).after 3).previous.NoTallies ∧
      ∀ p, (((start Mode.adjacent.rule crookedBench).after 3).current.cached p : Int) =
        ((start Mode.adjacent.rule crookedBench).after 3).current.tallyAt p :=
  ⟨rfl, by decide +kernel, talliesExact_after_start Mode.adjacent.rule rfl crookedBench 3⟩

end Simulation

/-! ### People -/

/-- The places taken next when all seats are decided at once: a free seat is taken when its count is
zero, a taken one is left when its count has reached the threshold, and floor stays floor. The count
is made on the room as it is with exactly the given places taken. -/
def Layout.synchronous (g : Layout) (threshold : Nat) (count : Layout → Position → Nat)
    (taken : Finset Position) : Finset Position :=
  {p ∈ g.seatPlaces |
    if p ∈ taken then ¬threshold ≤ count (g.seated taken) p else count (g.seated taken) p = 0}

namespace Rule

/-- As the latest one a generation is stored with its people. -/
theorem takenPlaces_kept (r : Rule) (g : Layout) : (r.kept g).takenPlaces = g.takenPlaces := by
  ext p
  simp

/-- As the one before it is, too. -/
theorem takenPlaces_spare (r : Rule) (g : Layout) : (r.spare g).takenPlaces = g.takenPlaces := by
  ext p
  simp

/-- The buffers show the same exactly when the same people are seated in both generations. -/
theorem sameSpots_kept_spare_iff (r : Rule) (g : Layout) (j k : Nat) :
    (r.kept (r.generation g j)).SameSpots (r.spare (r.generation g k)) ↔
      (r.generation g j).takenPlaces = (r.generation g k).takenPlaces := by
  have hfloor := (r.sameFloor_generation g j).trans (r.sameFloor_generation g k).symm
  have hkept := (r.sameFloor_kept (r.generation g j)).trans hfloor
  rw [Layout.sameSpots_iff_takenPlaces (hkept.trans (r.sameFloor_spare _).symm) ?_,
    takenPlaces_kept, takenPlaces_spare]
  rw [surplus_spots_kept, surplus_spots_spare, surplus_generation, surplus_generation]

/-- Under a standard rule one generation follows from another by the usual decision. -/
theorem nextTaken_standard (threshold : Nat) (count : Layout → Position → Nat) (tracked : Bool)
    (g : Layout) (X : Finset Position) :
    (standard threshold count tracked).nextTaken (g.seated X) =
      g.synchronous threshold (if tracked then Layout.adjacentOccupied else count) X := by
  ext p
  rw [mem_nextTaken, Layout.synchronous, Finset.mem_filter, Layout.mem_seatPlaces,
    Layout.isSeat_seated]
  refine and_congr_right fun hp => ?_
  have htaken : (g.seated X).isTaken p = decide (p ∈ X) := by
    rw [Layout.isTaken_seated, hp, Bool.true_and]
  have hcount : (standard threshold count tracked).fresh (g.seated X) p =
      (if tracked then Layout.adjacentOccupied else count) (g.seated X) p := by
    cases tracked <;> rfl
  rw [htaken, hcount]
  by_cases hmem : p ∈ X <;> simp [standard, hmem]

/-- The people of the generations are the iterates of the usual decision. -/
theorem takenPlaces_generation_standard (threshold : Nat) (count : Layout → Position → Nat)
    (tracked : Bool) (g : Layout) (k : Nat) :
    ((standard threshold count tracked).generation g k).takenPlaces =
      (g.synchronous threshold (if tracked then Layout.adjacentOccupied else count))^[k]
        g.takenPlaces := by
  induction k with
  | zero => rfl
  | succ k ih =>
    rw [generation, takenPlaces_advance, generation_eq_seated, nextTaken_standard, ih,
      Function.iterate_succ_apply']

end Rule

namespace Simulation

/-- **Every tick is the usual decision made for all seats at once.** Under a standard rule the people
seated after `k` ticks are the `k`-th iterate of `Layout.synchronous`, with fresh counts of the rule's
own if it keeps no tallies and of the adjacent seats if it does. The next tick leaves them to be seen
in the other buffer, returns the number of places where the two generations differ, and returns zero
exactly when the buffers show the same. -/
theorem takenPlaces_after_start_standard (threshold : Nat) (count : Layout → Position → Nat)
    (tracked : Bool) (g : Layout) (k : Nat) :
    let s := (start (.standard threshold count tracked) g).after k
    s.current.takenPlaces =
        (g.synchronous threshold (if tracked then Layout.adjacentOccupied else count))^[k]
          g.takenPlaces ∧
      s.tick.1.previous.takenPlaces = s.current.takenPlaces ∧
      s.tick.2 = (g.positions.filter fun p =>
        s.tick.1.current.isTaken p ≠ s.tick.1.previous.isTaken p).length ∧
      (s.tick.2 = 0 ↔ s.tick.1.current.SameSpots s.tick.1.previous) := by
  intro s
  have hs : s.current = _ := current_after_start _ g k
  have htick := tick_after_start (.standard threshold count tracked) g k
  refine ⟨?_, ?_, ?_, ?_⟩
  · rw [hs, Rule.takenPlaces_kept, Rule.takenPlaces_generation_standard]
  · rw [hs, htick, previous_stored, Rule.takenPlaces_spare, Rule.takenPlaces_kept]
  · rw [htick, List.countP_eq_length_filter, current_stored, previous_stored]
    simp only [Rule.isTaken_kept, Rule.isTaken_spare]
  · rw [htick, current_stored, previous_stored, Rule.sameSpots_kept_spare_iff]
    exact Rule.countP_generation_eq_zero_iff _ g k

end Simulation

end WaitingRoom
