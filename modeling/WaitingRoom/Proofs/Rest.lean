import Mathlib.Combinatorics.Pigeonhole
import WaitingRoom.Outcome
import WaitingRoom.Proofs.Crowd
import WaitingRoom.Proofs.Ticks

/-!
# Coming to rest

* **`Simulation.QuietAt`**: the tick after so many ticks changes nothing. From then on no tick does.
* **`Simulation.run_isSome_iff`**: a run has a result exactly when some tick is quiet. The number of
  ticks that a run allows itself is no limit: before the first quiet tick no generation comes twice,
  and there are no more generations than ways to occupy the seats.
* **`Layout.crowd`**: the crowd of a room under a mode. The generations of a standard rule are the
  seatings of that crowd (`Rule.takenPlaces_generation_crowd`).
* **`Simulation.run_isSome_of_five_le`**: with people who leave at five or more, every run comes to
  rest, from any seating and in either mode, with tallies or without.
-/

namespace WaitingRoom

/-! ### Quiet ticks -/

namespace Simulation

/-- The tick that follows `k` ticks changes nothing. -/
def QuietAt (s : Simulation) (k : Nat) : Prop := (s.after k).tick.2 = 0

/-- After a tick moments are counted from one. -/
theorem quietAt_tick (s : Simulation) (k : Nat) : s.tick.1.QuietAt k ↔ s.QuietAt (k + 1) := by
  rw [QuietAt, after_tick, QuietAt]

/-- After some ticks moments are counted on. -/
theorem quietAt_after (s : Simulation) (j k : Nat) : (s.after j).QuietAt k ↔ s.QuietAt (j + k) := by
  rw [QuietAt, ← after_add, QuietAt]

/-- A tick is quiet when the same people are seated before and after it. -/
theorem quietAt_start_iff (r : Rule) (g : Layout) (k : Nat) :
    (start r g).QuietAt k ↔
      (r.generation g (k + 1)).takenPlaces = (r.generation g k).takenPlaces := by
  rw [QuietAt, tick_after_start]
  exact r.countP_generation_eq_zero_iff g k

/-- With a limit on its ticks, a run has a result when a tick within the limit is quiet. -/
theorem runFor_isSome_iff (s : Simulation) (limit : Nat) :
    (runFor limit s).isSome = true ↔ ∃ k < limit, s.QuietAt k := by
  induction limit generalizing s with
  | zero => simp [runFor]
  | succ limit ih =>
    rw [runFor]
    by_cases hquiet : s.tick.2 = 0
    · simp only [hquiet, if_true, Option.isSome_some, true_iff]
      exact ⟨0, Nat.succ_pos limit, hquiet⟩
    · simp only [hquiet, if_false, Option.isSome_map, ih, quietAt_tick]
      constructor
      · rintro ⟨k, hk, hlater⟩
        exact ⟨k + 1, Nat.succ_lt_succ hk, hlater⟩
      · rintro ⟨k, hk, hlater⟩
        cases k with
        | zero => exact absurd hlater hquiet
        | succ k => exact ⟨k, Nat.lt_of_succ_lt_succ hk, hlater⟩

end Simulation

/-! ### No run is cut short -/

/-- A sequence in which each member determines the next one comes to rest, if at all, before it has
been through all the values that it can take. -/
theorem exists_lt_card_of_rests {α : Type} [DecidableEq α] (f : Nat → α) (values : Finset α)
    (hvalues : ∀ k, f k ∈ values) (hnext : ∀ i j, f i = f j → f (i + 1) = f (j + 1))
    (hrests : ∃ k, f (k + 1) = f k) : ∃ k < values.card, f (k + 1) = f k := by
  obtain ⟨n, hfirst, hmin⟩ : ∃ n, f (n + 1) = f n ∧ ∀ m < n, f (m + 1) ≠ f m :=
    ⟨Nat.find hrests, Nat.find_spec hrests, fun m hm => Nat.find_min hrests hm⟩
  refine ⟨n, ?_, hfirst⟩
  by_contra hcard
  -- two of the first `n + 1` members are the same, so the sequence would have rested before
  obtain ⟨i, hi, j, hj, hne, heq⟩ : ∃ i ∈ Finset.range (n + 1), ∃ j ∈ Finset.range (n + 1),
      i ≠ j ∧ f i = f j := by
    refine Finset.exists_ne_map_eq_of_card_lt_of_maps_to ?_ fun k _ => hvalues k
    rw [Finset.card_range]
    omega
  rw [Finset.mem_range] at hi hj
  have hearlier : ∀ i j, i < j → j ≤ n → f i ≠ f j := by
    intro i j hij hjn heq
    have hshift : ∀ m, f (i + m) = f (j + m) := by
      intro m
      induction m with
      | zero => exact heq
      | succ m ih => exact hnext (i + m) (j + m) ih
    have hend : f (i + (n - j)) = f n := by
      rw [hshift, Nat.add_sub_cancel' hjn]
    have hend' : f (i + (n - j) + 1) = f (n + 1) := hnext _ _ hend
    exact hmin (i + (n - j)) (by omega) (by rw [hend', hfirst, hend])
  rcases Nat.lt_or_gt_of_ne hne with hlt | hlt
  · exact hearlier i j hlt (by omega) heq
  · exact hearlier j i hlt (by omega) heq.symm

namespace Rule

/-- The people seated determine the next generation. -/
theorem takenPlaces_generation_succ_congr (r : Rule) (g : Layout) (i j : Nat)
    (h : (r.generation g i).takenPlaces = (r.generation g j).takenPlaces) :
    (r.generation g (i + 1)).takenPlaces = (r.generation g (j + 1)).takenPlaces := by
  rw [generation, generation, (r.generation_eq_iff g i j).2 h]

/-- In every generation people sit on the seats of the layout. -/
theorem takenPlaces_generation_subset (r : Rule) (g : Layout) (k : Nat) :
    (r.generation g k).takenPlaces ⊆ g.seatPlaces := by
  have := (r.generation g k).takenPlaces_subset
  rwa [r.generation_eq_seated g k, Layout.seatPlaces_seated, ← r.generation_eq_seated g k] at this

end Rule

namespace Simulation

/-- The first quiet tick comes before every way to occupy the seats has been tried. -/
theorem exists_quietAt_lt (r : Rule) (g : Layout) (j : Nat)
    (hquiet : ∃ k, ((start r g).after j).QuietAt k) :
    ∃ k < 2 ^ ((start r g).after j).current.seats, ((start r g).after j).QuietAt k := by
  simp only [quietAt_after, quietAt_start_iff] at hquiet ⊢
  obtain ⟨k, hk, hrest⟩ := exists_lt_card_of_rests
    (fun k => (r.generation g (j + k)).takenPlaces) g.seatPlaces.powerset
    (fun k => Finset.mem_powerset.2 (r.takenPlaces_generation_subset g (j + k)))
    (fun i i' => r.takenPlaces_generation_succ_congr g (j + i) (j + i')) hquiet
  refine ⟨k, Nat.lt_of_lt_of_le hk ?_, hrest⟩
  have hseats : g.seatPlaces.card ≤ ((start r g).after j).current.seats := by
    have hplaces : ((start r g).after j).current.seatPlaces = g.seatPlaces := by
      rw [current_after_start]
      ext p
      simp [(r.sameFloor_generation g j).isSeat]
    rw [← hplaces]
    exact Layout.card_seatPlaces_le_seats _
  rw [Finset.card_powerset]
  exact Nat.pow_le_pow_right Nat.two_pos hseats

/-- A run has a result exactly when some tick is quiet. -/
theorem run_isSome_iff (r : Rule) (g : Layout) (j : Nat) :
    ((start r g).after j).run.isSome = true ↔ ∃ k, ((start r g).after j).QuietAt k := by
  rw [run, runFor_isSome_iff]
  constructor
  · rintro ⟨k, -, hk⟩
    exact ⟨k, hk⟩
  · exact exists_quietAt_lt r g j

end Simulation

/-! ### The crowd of a room -/

namespace Layout

/-- The crowd of a room under a mode and a threshold. -/
def crowd (g : Layout) (m : Mode) (threshold : Nat) : Crowd Position where
  seats := g.seatPlaces
  near := m.near g
  threshold := threshold
  near_symm _ hp _ _ hq :=
    Mode.mem_near.2 (Mode.mem_neighbors_symm (mem_seatPlaces.1 hp) (Mode.mem_near.1 hq))

/-- Deciding about all seats of a room at once is the next seating of its crowd. -/
theorem synchronous_eq_next (g : Layout) (m : Mode) (threshold : Nat) {X : Finset Position}
    (hX : X ⊆ g.seatPlaces) :
    g.synchronous threshold m.occupied X = (g.crowd m threshold).next X := by
  ext p
  rw [synchronous, Crowd.next, Finset.mem_filter, Finset.mem_filter, Mode.occupied_seated hX,
    not_le]
  rfl

/-- On seats the usual decision is that of a crowd, again and again. -/
theorem iterate_synchronous (g : Layout) (m : Mode) (threshold k : Nat) {X : Finset Position}
    (hX : X ⊆ g.seatPlaces) :
    (g.synchronous threshold m.occupied)^[k] X = (g.crowd m threshold).next^[k] X := by
  induction k with
  | zero => rfl
  | succ k ih =>
    rw [Function.iterate_succ_apply', Function.iterate_succ_apply', ih]
    exact g.synchronous_eq_next m threshold (Crowd.iterate_next_subset hX k)

end Layout

/-- The mode by whose counts ticks go: tallies hold the adjacent seats, whatever the rule counts. -/
def Mode.counted (m : Mode) (tracked : Bool) : Mode := if tracked then .adjacent else m

/-- The people of the generations are the seatings of the crowd. -/
theorem Rule.takenPlaces_generation_crowd (m : Mode) (threshold : Nat) (tracked : Bool) (g : Layout)
    (k : Nat) :
    ((standard threshold m.occupied tracked).generation g k).takenPlaces =
      (g.crowd (m.counted tracked) threshold).next^[k] g.takenPlaces := by
  have hcount : (if tracked then Layout.adjacentOccupied else m.occupied) =
      (m.counted tracked).occupied := by
    cases tracked <;> rfl
  rw [takenPlaces_generation_standard, hcount, Layout.iterate_synchronous _ _ _ _ g.takenPlaces_subset]

namespace Simulation

/-- A tick is quiet when its seating of the crowd follows itself. -/
theorem quietAt_start_crowd_iff (m : Mode) (threshold : Nat) (tracked : Bool) (g : Layout)
    (k : Nat) :
    (start (.standard threshold m.occupied tracked) g).QuietAt k ↔
      (g.crowd (m.counted tracked) threshold).next
          ((g.crowd (m.counted tracked) threshold).next^[k] g.takenPlaces) =
        (g.crowd (m.counted tracked) threshold).next^[k] g.takenPlaces := by
  rw [quietAt_start_iff, Rule.takenPlaces_generation_crowd, Rule.takenPlaces_generation_crowd,
    Function.iterate_succ_apply']

/-- Some tick is quiet when people leave at five at the earliest: a run ends at rest or between two
alternating seatings, and the first of the alternating seats in reading order would have five near
seats after it. -/
theorem exists_quietAt_of_five_le (m : Mode) (threshold : Nat) (tracked : Bool) (g : Layout)
    (hfive : 5 ≤ threshold) :
    ∃ k, (start (.standard threshold m.occupied tracked) g).QuietAt k := by
  obtain ⟨k, hk⟩ := Crowd.exists_period_two (c := g.crowd (m.counted tracked) threshold)
    (X := g.takenPlaces) g.takenPlaces_subset
  refine ⟨k, (quietAt_start_crowd_iff m threshold tracked g k).2 ?_⟩
  rw [Function.iterate_succ_apply', Function.iterate_succ_apply'] at hk
  exact Crowd.next_eq_self_of_period_two Position.readingOrder
    ((m.counted tracked).card_later_neighbors g) hfive hk

/-- **Rooms whose people leave at five or more come to rest**, from any seating, in either mode and
with tallies or without. In particular every room comes to rest when people look around for the
first seat in sight. -/
theorem run_isSome_of_five_le (g : Layout) :
    ((start Mode.visible.rule g).run.isSome = true ∧ (g.settle .visible).isSome = true ∧
        ∃ k, ((start Mode.visible.rule g).after k).tick.2 = 0) ∧
      ∀ (m : Mode) (threshold : Nat) (tracked : Bool), 5 ≤ threshold →
        (start (.standard threshold m.occupied tracked) g).run.isSome = true ∧
          ∃ k, ((start (.standard threshold m.occupied tracked) g).after k).tick.2 = 0 := by
  have hrests : ∀ (m : Mode) (threshold : Nat) (tracked : Bool), 5 ≤ threshold →
      (start (.standard threshold m.occupied tracked) g).run.isSome = true ∧
        ∃ k, ((start (.standard threshold m.occupied tracked) g).after k).tick.2 = 0 := by
    intro m threshold tracked hfive
    have hquiet := exists_quietAt_of_five_le m threshold tracked g hfive
    exact ⟨(run_isSome_iff _ g 0).2 hquiet, hquiet⟩
  obtain ⟨hrun, hquiet⟩ := hrests .visible 5 false le_rfl
  refine ⟨⟨hrun, ?_, hquiet⟩, hrests⟩
  rw [Layout.settle, Option.isSome_map]
  exact hrun

/-- With a threshold of six the crooked bench comes to rest. -/
theorem run_isSome_crookedBench :
    5 ≤ 6 ∧ (start (.standard 6 Mode.adjacent.occupied true) crookedBench).run.isSome = true :=
  ⟨by decide, ((run_isSome_of_five_le crookedBench).2 .adjacent 6 true (by decide)).1⟩

end Simulation

end WaitingRoom
