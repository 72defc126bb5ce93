import Mathlib.Algebra.BigOperators.Group.Finset.Basic
import WaitingRoom.Proofs.Buffers
import WaitingRoom.Proofs.Sweep

/-!
# Generations

A simulation writes each generation over the one before last, seat by seat and with tallies kept up
to date on the way. Here it is compared with the generations themselves: each follows from the one
before by deciding about all seats at once.

* **`Rule.advance`**, **`Rule.generation`**: the next generation of a layout, and the generations that
  follow it. Tallies play no part in them.
* **`Rule.kept`**, **`Rule.spare`**: the two forms in which a simulation stores a generation: with exact
  tallies while it is the latest one, and with none once it is to be written over.
* **`Rule.turn_kept`**, **`Rule.tick_kept`**: a tick leads from a generation to the next one, whatever
  the other buffer held, and whichever of the two it is.
-/

namespace WaitingRoom

namespace Rule

variable {r : Rule} {g h : Layout} {p : Position}

/-! ### The generations of a layout -/

/-- The count that a rule goes by, taken afresh. -/
def fresh (r : Rule) (g : Layout) (p : Position) : Nat :=
  if r.tracked then g.adjacentOccupied p else r.occupied g p

/-- The places that are taken in the next generation. -/
def nextTaken (r : Rule) (g : Layout) : Finset Position :=
  {p ∈ g.seatPlaces | r.next (g.isTaken p) (r.fresh g p) = true}

/-- The next generation, decided for all seats at once. -/
def advance (r : Rule) (g : Layout) : Layout := g.seated (r.nextTaken g)

/-- The generations of a layout. -/
def generation (r : Rule) (g : Layout) : Nat → Layout
  | 0 => g
  | k + 1 => r.advance (r.generation g k)

/-- A place is taken next when there is a seat and the rule decides so. -/
theorem mem_nextTaken :
    p ∈ r.nextTaken g ↔ g.isSeat p = true ∧ r.next (g.isTaken p) (r.fresh g p) = true := by
  rw [nextTaken, Finset.mem_filter, Layout.mem_seatPlaces]

/-- The people of the next generation are those decided for. -/
theorem takenPlaces_advance (r : Rule) (g : Layout) : (r.advance g).takenPlaces = r.nextTaken g :=
  Layout.takenPlaces_seated (Finset.filter_subset _ _)

/-- Whether a place is taken next, position by position. -/
theorem isTaken_advance (r : Rule) (g : Layout) (p : Position) :
    (r.advance g).isTaken p = (g.isSeat p && r.next (g.isTaken p) (r.fresh g p)) := by
  rw [Bool.eq_iff_iff, ← Layout.mem_takenPlaces, takenPlaces_advance, mem_nextTaken,
    Bool.and_eq_true]

/-- The next generation has the same floor. -/
theorem sameFloor_advance (r : Rule) (g : Layout) : (r.advance g).SameFloor g :=
  g.sameFloor_seated (r.nextTaken g)

/-- All generations are seatings of the first one. -/
theorem generation_eq_seated (r : Rule) (g : Layout) (k : Nat) :
    r.generation g k = g.seated (r.generation g k).takenPlaces := by
  cases k with
  | zero => exact (g.seated_takenPlaces).symm
  | succ k =>
    have hprev := generation_eq_seated r g k
    rw [generation, takenPlaces_advance, advance]
    rw [hprev, Layout.seated_seated, ← hprev]

/-- Two generations of one layout are the same when the same people are seated. -/
theorem generation_eq_iff (r : Rule) (g : Layout) (i j : Nat) :
    r.generation g i = r.generation g j ↔
      (r.generation g i).takenPlaces = (r.generation g j).takenPlaces := by
  constructor
  · intro heq
    rw [heq]
  · intro htaken
    rw [r.generation_eq_seated g i, r.generation_eq_seated g j, htaken]

/-- Generations of a generation are later generations. -/
theorem generation_add (r : Rule) (g : Layout) (j k : Nat) :
    r.generation g (j + k) = r.generation (r.generation g j) k := by
  induction k with
  | zero => rfl
  | succ k ih => rw [← Nat.add_assoc, generation, ih, generation]

/-- All generations have the same surplus. -/
theorem surplus_generation (r : Rule) (g : Layout) (k : Nat) :
    (r.generation g k).surplus = g.surplus := by
  rw [generation_eq_seated, Layout.surplus_seated]

/-- All generations have the same floor. -/
theorem sameFloor_generation (r : Rule) (g : Layout) (k : Nat) :
    (r.generation g k).SameFloor g := by
  rw [r.generation_eq_seated g k]
  exact g.sameFloor_seated _

/-- No place differs between two generations in a row when the same people are seated. -/
theorem countP_generation_eq_zero_iff (r : Rule) (g : Layout) (k : Nat) :
    (g.positions.countP fun p =>
        (r.generation g (k + 1)).isTaken p ≠ (r.generation g k).isTaken p) = 0 ↔
      (r.generation g (k + 1)).takenPlaces = (r.generation g k).takenPlaces := by
  have hfloor := r.sameFloor_generation g (k + 1)
  rw [← hfloor.positions]
  exact Layout.countP_isTaken_ne_eq_zero_iff (hfloor.trans (r.sameFloor_generation g k).symm)

/-- Any generation is a seating of any other. -/
theorem exists_seated_eq_generation (r : Rule) (g : Layout) (j k : Nat) :
    ∃ X, r.generation g j = (r.generation g k).seated X := by
  refine ⟨(r.generation g j).takenPlaces, ?_⟩
  rw [r.generation_eq_seated g k, Layout.seated_seated]
  exact r.generation_eq_seated g j

/-! ### How a simulation stores a generation -/

/-- The latest generation as it is stored: a tracked rule keeps exact tallies in it. -/
def kept (r : Rule) (g : Layout) : Layout := if r.tracked then g.recount else g

/-- The generation before as it is stored: a tracked rule keeps no tallies in it. -/
def spare (r : Rule) (g : Layout) : Layout := if r.tracked then g.clearTallies else g

/-- As the latest one a generation is stored with its people. -/
@[simp] theorem spotAt_kept (r : Rule) (g : Layout) (p : Position) :
    (r.kept g).spotAt p = g.spotAt p := by
  unfold kept
  split <;> simp

/-- As the one before it is, too. -/
@[simp] theorem spotAt_spare (r : Rule) (g : Layout) (p : Position) :
    (r.spare g).spotAt p = g.spotAt p := by
  unfold spare
  split <;> simp

/-- Both forms have the same outline. -/
theorem outline_spare (r : Rule) (g : Layout) : (r.spare g).outline = (r.kept g).outline := by
  unfold spare kept
  split
  · exact g.outline_recount.symm
  · rfl

/-- Storing a generation moves no seat. -/
@[simp] theorem isSeat_kept (r : Rule) (g : Layout) (p : Position) :
    (r.kept g).isSeat p = g.isSeat p :=
  Layout.isSeat_of_spotAt (r.spotAt_kept g) p

/-- In the latest generation everybody sits who sat. -/
@[simp] theorem isTaken_kept (r : Rule) (g : Layout) (p : Position) :
    (r.kept g).isTaken p = g.isTaken p := by
  rw [Layout.isTaken, spotAt_kept, Layout.isTaken]

/-- In the one before, too. -/
@[simp] theorem isTaken_spare (r : Rule) (g : Layout) (p : Position) :
    (r.spare g).isTaken p = g.isTaken p := by
  rw [Layout.isTaken, spotAt_spare, Layout.isTaken]

/-- The latest generation has the floor of the generation. -/
theorem sameFloor_kept (r : Rule) (g : Layout) : (r.kept g).SameFloor g := by
  unfold kept
  split
  · exact g.sameFloor_recount
  · exact .refl g

/-- So does the one before. -/
theorem sameFloor_spare (r : Rule) (g : Layout) : (r.spare g).SameFloor g := by
  unfold spare
  split
  · exact g.sameFloor_clearTallies
  · exact .refl g

/-- The two buffers have the same floor, whoever is seated. -/
theorem sameFloor_spare_kept (r : Rule) (g : Layout) (X : Finset Position) :
    (r.spare (g.seated X)).SameFloor (r.kept g) :=
  (r.sameFloor_spare _).trans ((g.sameFloor_seated X).trans (r.sameFloor_kept g).symm)

/-- The size and the surplus of a stored generation do not depend on who is seated. -/
theorem outline_kept_seated (r : Rule) (g : Layout) (X : Finset Position) :
    (r.kept (g.seated X)).outline = (r.kept g).outline := by
  unfold kept
  split
  · exact Layout.outline_recount_congr (g.outline_seated X)
  · exact g.outline_seated X

/-- The surplus of a stored generation shows what it always showed. -/
theorem surplus_spots_kept (r : Rule) (g : Layout) :
    (r.kept g).surplus.map Cell.spot = g.surplus.map Cell.spot := by
  have hrecount : g.recount.surplus = g.clearTallies.surplus :=
    congrArg (fun o => o.2.2) g.outline_recount
  unfold kept
  split
  · rw [hrecount, Layout.surplus_clearTallies, List.map_map]
    rfl
  · rfl

/-- The same holds of the one before. -/
theorem surplus_spots_spare (r : Rule) (g : Layout) :
    (r.spare g).surplus.map Cell.spot = g.surplus.map Cell.spot := by
  rw [show (r.spare g).surplus = (r.kept g).surplus from
    congrArg (fun o => o.2.2) (r.outline_spare g), surplus_spots_kept]

/-- The tally of a seat in the latest generation reads as a fresh count. -/
theorem cached_recount (hp : g.isSeat p = true) : g.recount.cached p = g.adjacentOccupied p := by
  rw [Layout.cached, Layout.tallyAt_recount, if_pos hp, Int.toNat_natCast]

/-- On a stored generation a rule decides as it does on the generation itself. -/
theorem decision_kept (hp : g.isSeat p = true) :
    r.decision (r.kept g) p = r.next (g.isTaken p) (r.fresh g p) := by
  have hcount : r.countAt (r.kept g) p = r.fresh g p := by
    unfold countAt kept fresh
    split
    · exact cached_recount hp
    · rfl
  rw [decision, isTaken_kept, hcount]

/-- A seat flips when the next generation differs from this one at it. -/
theorem flips_kept_iff : r.Flips (r.kept g) p ↔ (r.advance g).isTaken p ≠ g.isTaken p := by
  rw [Flips, isSeat_kept, isTaken_kept, isTaken_advance]
  by_cases hp : g.isSeat p = true
  · rw [decision_kept hp, hp, Bool.true_and]
    simp
  · have htaken : g.isTaken p = false := by
      by_contra h
      exact hp (Layout.isSeat_of_isTaken (by simpa using h))
    simp [hp, htaken]

/-! ### A tick leads to the next generation -/

/-- Counting the next generation is counting this one and adding every change around. -/
theorem adjacentOccupied_advance (htracked : r.tracked = true) {q : Position}
    (hq : g.isSeat q = true) :
    ((r.advance g).adjacentOccupied q : Int) =
      ∑ p ∈ (r.kept g).places, r.credit (r.kept g) p q := by
  have hkept : r.kept g = g.recount := if_pos htracked
  have hnear : ∀ h : Layout, h.SameFloor g → Mode.adjacent.near h q = Mode.adjacent.near g q :=
    fun h hfloor => congrArg List.toFinset (Mode.neighbors_congr hfloor .adjacent q)
  have hcached : ((r.kept g).cached q : Int) =
      ∑ p ∈ Mode.adjacent.near g q, if g.isTaken p = true then 1 else 0 := by
    rw [hkept, cached_recount hq, Layout.adjacentOccupied_eq_sum]
  have hnext : ∀ p, (r.advance g).isTaken p =
      ((r.kept g).isSeat p && r.decision (r.kept g) p) := by
    intro p
    rw [isTaken_advance, isSeat_kept]
    by_cases hp : g.isSeat p = true
    · rw [decision_kept hp]
    · simp [hp]
  rw [sum_credit htracked (by rwa [isSeat_kept]), hcached, hnear _ (r.sameFloor_kept g),
    Finset.sum_sub_distrib, Layout.adjacentOccupied_eq_sum,
    hnear _ (r.sameFloor_advance g)]
  simp only [hnext, isTaken_kept]
  omega

/-- After a sweep over all places the target shows the next generation. -/
theorem spotAt_sweep_kept (r : Rule) (g : Layout) (X : Finset Position) (q : Position) :
    (r.sweep (r.kept g) (r.spare (g.seated X)) (r.kept g).positions).target.spotAt q =
      (r.advance g).spotAt q := by
  rw [sweep, spotAt_foldl_visit, spotAt_spare, isSeat_kept, advance, Layout.spotAt_seated,
    Layout.spotAt_seated]
  by_cases hq : g.isSeat q = true
  · have hmem : q ∈ (r.kept g).positions := by
      rw [Layout.mem_positions, (r.sameFloor_kept g).mem_iff]
      exact Layout.mem_of_isSeat hq
    have hnext : decide (q ∈ r.nextTaken g) = r.decision (r.kept g) q := by
      rw [Bool.eq_iff_iff, decide_eq_true_iff, mem_nextTaken, decision_kept hq]
      exact and_iff_right hq
    rw [if_pos ⟨hmem, hq⟩, Spot.occupy_occupy, hnext]
  · have hspot : g.spotAt q = .floor := by
      unfold Layout.isSeat at hq
      cases hs : g.spotAt q <;> simp_all [Spot.isSeat]
    rw [if_neg (fun h => hq h.2), hspot]
    rfl

/-- After a sweep over all places the target has the tallies that belong to the next generation: the
credits that have reached a seat add up to its count, and nothing has reached the floor. -/
theorem tallyAt_sweep_kept (htracked : r.tracked = true) (g : Layout) (X : Finset Position)
    (q : Position) :
    (r.sweep (r.kept g) (r.spare (g.seated X)) (r.kept g).positions).target.tallyAt q =
      (r.advance g).recount.tallyAt q := by
  have hspare : (r.spare (g.seated X)).tallyAt q = 0 := by
    rw [spare, if_pos htracked, Layout.tallyAt_clearTallies]
  rw [sweep, tallyAt_foldl_visit _ (r.sameFloor_spare_kept g X), hspare, Int.zero_add,
    ← List.sum_toFinset _ (r.kept g).nodup_positions, Layout.tallyAt_recount,
    (r.sameFloor_advance g).isSeat]
  by_cases hq : g.isSeat q = true
  · rw [if_pos hq, adjacentOccupied_advance htracked hq]
    rfl
  · rw [if_neg hq]
    refine Finset.sum_eq_zero fun p _ => credit_of_floor ?_ p
    rw [isSeat_kept]
    simpa using hq

/-- A sweep over all places turns any seating of the room into its next generation. -/
theorem target_sweep_kept (r : Rule) (g : Layout) (X : Finset Position) :
    (r.sweep (r.kept g) (r.spare (g.seated X)) (r.kept g).positions).target =
      r.kept (r.advance g) := by
  refine Layout.eq_of_views ?_ (fun q => ?_) (fun q => ?_)
  · rw [sweep, outline_foldl_visit, outline_spare, outline_kept_seated, advance,
      outline_kept_seated]
  · rw [spotAt_sweep_kept, spotAt_kept]
  · cases htracked : r.tracked with
    | false =>
      rw [sweep, tallyAt_foldl_visit _ (r.sameFloor_spare_kept g X)]
      simp [credit_of_not_tracked htracked, spare, kept, htracked, advance]
    | true => rw [tallyAt_sweep_kept htracked, kept, if_pos htracked]

/-- A tick changes as many seats as the two generations differ in. -/
theorem changed_sweep_kept (r : Rule) (g target : Layout) :
    (r.sweep (r.kept g) target (r.kept g).positions).changed =
      g.positions.countP fun p => (r.advance g).isTaken p ≠ g.isTaken p := by
  rw [sweep, changed_foldl_visit, Nat.zero_add, (r.sameFloor_kept g).positions]
  simp only [flips_kept_iff]

/-- One tick leads from a generation to the next, whoever was seated in the other one, and leaves the
generation behind without tallies. -/
theorem turn_kept (r : Rule) (g : Layout) (X : Finset Position) :
    r.turn (r.kept g) (r.spare (g.seated X)) =
      ((r.kept (r.advance g), r.spare g),
        g.positions.countP fun p => (r.advance g).isTaken p ≠ g.isTaken p) := by
  have hspare : (if r.tracked then (r.kept g).clearTallies else r.kept g) = r.spare g := by
    unfold kept spare
    split
    · exact g.clearTallies_recount
    · rfl
  simp only [turn, target_sweep_kept, changed_sweep_kept, hspare]

/-- So does a tick of a simulation, whichever of its buffers holds the generation. -/
theorem tick_kept (r : Rule) (g : Layout) (X : Finset Position) (n : Nat) :
    (Simulation.stored r (r.kept g) (r.spare (g.seated X)) n).tick =
      (Simulation.stored r (r.kept (r.advance g)) (r.spare g) (n + 1),
        g.positions.countP fun p => (r.advance g).isTaken p ≠ g.isTaken p) := by
  rw [Simulation.tick_stored, turn_kept]

end Rule

end WaitingRoom
