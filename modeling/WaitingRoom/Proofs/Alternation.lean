import WaitingRoom.Proofs.Peeling
import WaitingRoom.Proofs.Runs

/-!
# How generations alternate

No run goes round in more than two generations, and from empty seats they close in on each other.

* **`Crowd.exists_forall_period_two`**: from some step on every seating returns after two.
  **`Simulation.alternates_after_start`** says so of rooms: a run comes to rest, or it alternates
  between two generations for ever.
* **`Crowd.monotone_even`**, **`Crowd.antitone_odd`**, **`Crowd.even_subset_odd`**: from empty
  seats, the seatings after an even number of steps grow, those after an odd number shrink, and
  every one of the former is part of every one of the latter.
* **`Crowd.moved`**: the seats taken or left in a step from there. Whoever moves has moved in the
  step before (`Crowd.moved_succ_subset`); when all of them move again, they always will
  (`Crowd.moved_eq_of_le`). So each step on the way to rest moves fewer than the one before.
* **`Simulation.nested_after_start`**: what this says of rooms in which nobody sits, and of the
  number of ticks that a run takes there.
-/

namespace WaitingRoom

/-! ### Every run ends in two generations -/

/-- From some step on every seating returns after two steps. -/
theorem Crowd.exists_forall_period_two {V : Type} [DecidableEq V] {c : Crowd V} {X : Finset V}
    (hX : X ⊆ c.seats) : ∃ n, ∀ k, n ≤ k → c.next^[k + 2] X = c.next^[k] X := by
  obtain ⟨n, hn⟩ := exists_period_two hX
  refine ⟨n, ?_⟩
  intro k hk
  obtain ⟨d, rfl⟩ := Nat.exists_eq_add_of_le' hk
  rw [Nat.add_assoc, Function.iterate_add_apply, hn, ← Function.iterate_add_apply]

namespace Simulation

/-- After a quiet tick all ticks are quiet. -/
theorem QuietAt.of_le {r : Rule} {g : Layout} {k n : Nat} (hquiet : (start r g).QuietAt k)
    (hle : k ≤ n) : (start r g).QuietAt n := by
  induction n, hle using Nat.le_induction with
  | base => exact hquiet
  | succ n _ ih => exact (tick_of_quietAt ih).1

/-- Under a standard rule with the counts of a mode, from some tick on every generation returns
after two ticks. -/
theorem exists_forall_current_add_two (m : Mode) (threshold : Nat) (tracked : Bool) (g : Layout) :
    ∃ n, ∀ k, n ≤ k →
      ((start (.standard threshold m.occupied tracked) g).after (k + 2)).current =
        ((start (.standard threshold m.occupied tracked) g).after k).current := by
  obtain ⟨n, hn⟩ := Crowd.exists_forall_period_two
    (c := g.crowd (m.counted tracked) threshold) g.takenPlaces_subset
  refine ⟨n, ?_⟩
  intro k hk
  rw [current_after_eq_iff, Rule.takenPlaces_generation_crowd, Rule.takenPlaces_generation_crowd]
  exact hn k hk

/-- After a quiet tick the latest generation stays. -/
theorem QuietAt.current_eq {r : Rule} {g : Layout} {k n : Nat} (hquiet : (start r g).QuietAt k)
    (hle : k ≤ n) : ((start r g).after n).current = ((start r g).after k).current := by
  induction n, hle using Nat.le_induction with
  | base => rfl
  | succ n hn ih => exact ((quietAt_after_iff_current r g 0 n).1 (hquiet.of_le hn)).trans ih

/-- Generations that return after two ticks alternate. -/
theorem current_alternates {s : Simulation} {n : Nat}
    (hreturn : ∀ k, n ≤ k → (s.after (k + 2)).current = (s.after k).current) (i : Nat) :
    (s.after (n + 2 * i)).current = (s.after n).current ∧
      (s.after (n + 2 * i + 1)).current = (s.after (n + 1)).current := by
  induction i with
  | zero => exact ⟨rfl, rfl⟩
  | succ i ih =>
    obtain ⟨heven, hodd⟩ := ih
    refine ⟨?_, ?_⟩
    · exact (hreturn (n + 2 * i) (by omega)).trans heven
    · exact (hreturn (n + 2 * i + 1) (by omega)).trans hodd

/-- **No run goes round in more than two generations.** Under a standard rule with the counts of a
mode, from any seating, with any threshold and with tallies or without, from some tick on every
generation returns after two ticks. Either ticks are quiet from some tick on, or none ever is and
two generations with different people alternate. -/
theorem alternates_after_start (m : Mode) (threshold : Nat) (tracked : Bool) (g : Layout) :
    let s := start (.standard threshold m.occupied tracked) g
    (∃ n, ∀ k, n ≤ k → (s.after (k + 2)).current = (s.after k).current) ∧
      ((∃ n, ∀ k, n ≤ k → (s.after k).tick.2 = 0 ∧ (s.after k).current = (s.after n).current) ∨
        (∀ k, (s.after k).tick.2 ≠ 0) ∧
          ∃ n A B, A.takenPlaces ≠ B.takenPlaces ∧
            ∀ i, (s.after (n + 2 * i)).current = A ∧ (s.after (n + 2 * i + 1)).current = B) := by
  intro s
  obtain ⟨n, hreturn⟩ := exists_forall_current_add_two m threshold tracked g
  refine ⟨⟨n, hreturn⟩, ?_⟩
  by_cases hrest : ∃ k, s.QuietAt k
  · left
    obtain ⟨k, hquiet⟩ := hrest
    exact ⟨k, fun j hj => ⟨hquiet.of_le hj, hquiet.current_eq hj⟩⟩
  · right
    refine ⟨fun k hk => hrest ⟨k, hk⟩, n, _, _, ?_, current_alternates hreturn⟩
    intro htaken
    rw [takenPlaces_current_after, takenPlaces_current_after] at htaken
    exact hrest ⟨n, (quietAt_start_iff _ g n).2 htaken.symm⟩

end Simulation

/-! ### Seatings from empty seats -/

namespace Crowd

variable {V : Type} [DecidableEq V] {c : Crowd V} {i n : ℕ}

/-- Two steps after an even number of them nobody has left. -/
theorem even_subset_add_two (c : Crowd V) (i : ℕ) : c.next^[2 * i] ∅ ⊆ c.next^[2 * i + 2] ∅ := by
  rw [Function.iterate_succ_apply', Function.iterate_succ_apply']
  exact (c.nested_iterate i).stay

/-- Two steps after an odd number of them nobody has come. -/
theorem odd_add_two_subset (c : Crowd V) (i : ℕ) :
    c.next^[2 * i + 3] ∅ ⊆ c.next^[2 * i + 1] ∅ := by
  rw [Function.iterate_succ_apply', Function.iterate_succ_apply', Function.iterate_succ_apply']
  exact (c.nested_iterate i).next_subset

/-- From nobody seated, the even generations grow. -/
theorem monotone_even (c : Crowd V) : Monotone fun i => c.next^[2 * i] ∅ := by
  apply monotone_nat_of_le_succ
  intro i
  rw [Nat.mul_succ]
  exact c.even_subset_add_two i

/-- The odd ones shrink. -/
theorem antitone_odd (c : Crowd V) : Antitone fun i => c.next^[2 * i + 1] ∅ := by
  apply antitone_nat_of_succ_le
  intro i
  rw [Nat.mul_succ]
  exact c.odd_add_two_subset i

/-- Whoever sits after an even number of steps sits after every odd number of them. -/
theorem even_subset_odd (c : Crowd V) (i j : ℕ) : c.next^[2 * i] ∅ ⊆ c.next^[2 * j + 1] ∅ := by
  calc c.next^[2 * i] ∅
      ⊆ c.next^[2 * max i j] ∅ := c.monotone_even (le_max_left i j)
    _ ⊆ c.next^[2 * max i j + 1] ∅ := by
        rw [Function.iterate_succ_apply']
        exact (c.nested_iterate (max i j)).subset_one
    _ ⊆ c.next^[2 * j + 1] ∅ := c.antitone_odd (le_max_right i j)

/-- The seats taken or left in the step that follows `k` steps from empty seats. -/
def moved (c : Crowd V) (k : ℕ) : Finset V := symmDiff (c.next^[k + 1] ∅) (c.next^[k] ∅)

/-- At first everybody moves. -/
theorem moved_zero (c : Crowd V) : c.moved 0 = c.seats := by
  show symmDiff (c.next ∅) ∅ = c.seats
  rw [c.next_empty]
  exact symmDiff_bot _

/-- Whoever moves has moved in the step before: each seating lies between the two before it. -/
theorem moved_succ_subset (c : Crowd V) (k : ℕ) : c.moved (k + 1) ⊆ c.moved k := by
  rcases Nat.even_or_odd' k with ⟨i, rfl | rfl⟩
  · -- some of those who came have left again
    have hhigh : c.next^[2 * i + 2] ∅ ⊆ c.next^[2 * i + 1] ∅ := c.even_subset_odd (i + 1) i
    rw [moved, moved, symmDiff_of_le hhigh, symmDiff_of_ge (c.even_subset_odd i i)]
    exact Finset.sdiff_subset_sdiff subset_rfl (c.even_subset_add_two i)
  · -- some of those who left have come again
    have hlow : c.next^[2 * i + 2] ∅ ⊆ c.next^[2 * i + 3] ∅ := c.even_subset_odd (i + 1) (i + 1)
    have hhigh : c.next^[2 * i + 2] ∅ ⊆ c.next^[2 * i + 1] ∅ := c.even_subset_odd (i + 1) i
    rw [moved, moved, symmDiff_of_ge hlow, symmDiff_of_le hhigh]
    exact Finset.sdiff_subset_sdiff (c.odd_add_two_subset i) subset_rfl

/-- The same seats move again when the generation before last has come back. -/
theorem moved_succ_eq_iff (c : Crowd V) (k : ℕ) :
    c.moved (k + 1) = c.moved k ↔ c.next^[k + 2] ∅ = c.next^[k] ∅ := by
  rw [moved, moved, symmDiff_comm (c.next^[k + 1] ∅) (c.next^[k] ∅)]
  exact symmDiff_left_inj

/-- No step moves more than the one before, and it moves as many only when it undoes it. -/
theorem card_moved_succ (c : Crowd V) (k : ℕ) :
    (c.moved (k + 1)).card ≤ (c.moved k).card ∧
      ((c.moved (k + 1)).card = (c.moved k).card ↔ c.next^[k + 2] ∅ = c.next^[k] ∅) := by
  have hsub := c.moved_succ_subset k
  refine ⟨Finset.card_le_card hsub, ?_⟩
  rw [← moved_succ_eq_iff]
  constructor
  · intro hcard
    exact Finset.eq_of_subset_of_card_le hsub hcard.ge
  · intro heq
    rw [heq]

/-- When all who moved move again they always will. -/
theorem moved_eq_of_le (hagain : c.moved (i + 1) = c.moved i) (hle : i ≤ n) :
    c.moved n = c.moved i := by
  have hstep : ∀ k, i ≤ k → c.moved (k + 1) = c.moved k := by
    intro k hk
    induction k, hk using Nat.le_induction with
    | base => exact hagain
    | succ k _ ih =>
      rw [moved_succ_eq_iff] at ih ⊢
      rw [Function.iterate_succ_apply', ih, ← Function.iterate_succ_apply' c.next k]
  induction n, hle using Nat.le_induction with
  | base => rfl
  | succ n hn ih => exact (hstep n hn).trans ih

/-- On the way to rest each step moves fewer than the one before, so there are no more steps than
seats. -/
theorem le_card_seats_of_moved (hloud : ∀ i < n, c.moved i ≠ ∅) (hquiet : c.moved n = ∅) :
    n ≤ c.seats.card := by
  have hfewer : ∀ i ≤ n, (c.moved i).card + i ≤ c.seats.card := by
    intro i hi
    induction i with
    | zero => rw [moved_zero, Nat.add_zero]
    | succ i ih =>
      have hne : c.moved (i + 1) ≠ c.moved i := by
        -- otherwise all of them would move in step `n` too
        intro heq
        exact hloud i hi ((moved_eq_of_le heq (by omega)).symm.trans hquiet)
      have hlt := Finset.card_lt_card ((c.moved_succ_subset i).ssubset_of_ne hne)
      have := ih (by omega)
      omega
  have := hfewer n le_rfl
  omega

end Crowd

/-! ### Rooms in which nobody sits -/

namespace Simulation

/-- In a room in which nobody sat, a tick changes as many seats as move in its crowd. -/
theorem tick_eq_card_moved (m : Mode) (threshold : Nat) (tracked : Bool) {g : Layout}
    (hg : g.takenPlaces = ∅) (k : Nat) :
    ((start (.standard threshold m.occupied tracked) g).after k).tick.2 =
      ((g.crowd (m.counted tracked) threshold).moved k).card := by
  rw [tick_eq_card_symmDiff, Rule.takenPlaces_generation_crowd, Rule.takenPlaces_generation_crowd,
    hg]
  rfl

/-- **From empty seats the generations close in on each other.** Under a standard rule with the
counts of a mode, with any threshold and with tallies or without: odd ticks send nobody away and
even ones seat nobody; generations of even number grow, those of odd number shrink, and each of the
former is part of each of the latter. With `changes k` for the result of the tick that follows `k`
ticks: no tick changes more seats than the one before, and it changes as many exactly when it undoes
it. A run that has an answer takes no more ticks than there are seats. -/
theorem nested_after_start (m : Mode) (threshold : Nat) (tracked : Bool) {g : Layout}
    (hg : g.takenPlaces = ∅) :
    let s := start (.standard threshold m.occupied tracked) g
    let people := fun k => (s.after k).current.takenPlaces
    let changes := fun k => (s.after k).tick.2
    (∀ i, people (2 * i) ⊆ people (2 * i + 1) ∧ people (2 * i + 2) ⊆ people (2 * i + 1)) ∧
      (∀ i, people (2 * i) ⊆ people (2 * i + 2) ∧ people (2 * i + 3) ⊆ people (2 * i + 1)) ∧
      (∀ i j, people (2 * i) ⊆ people (2 * j + 1)) ∧
      (∀ k, changes (k + 1) ≤ changes k ∧
        (changes (k + 1) = changes k ↔ people (k + 2) = people k)) ∧
      ∀ run, s.run = some run → run.ticks ≤ g.seatPlaces.card := by
  intro s people changes
  let c := g.crowd (m.counted tracked) threshold
  have hpeople : ∀ k, people k = c.next^[k] ∅ := by
    intro k
    show (s.after k).current.takenPlaces = _
    rw [takenPlaces_current_after, Rule.takenPlaces_generation_crowd, hg]
  have hchanges : ∀ k, changes k = (c.moved k).card := tick_eq_card_moved m threshold tracked hg
  simp only [hpeople, hchanges]
  refine ⟨fun i => ⟨c.even_subset_odd i i, c.even_subset_odd (i + 1) i⟩,
    fun i => ⟨c.even_subset_add_two i, c.odd_add_two_subset i⟩, c.even_subset_odd,
    c.card_moved_succ, ?_⟩
  intro run hrun
  have htells : run.IsRunOf s := isRunOf_of_runFor hrun
  apply Crowd.le_card_seats_of_moved (c := c)
  · intro i hi hempty
    exact htells.loud i hi ((hchanges i).trans (Finset.card_eq_zero.2 hempty))
  · exact Finset.card_eq_zero.1 ((hchanges run.ticks).symm.trans htells.quiet)

/-- In the square nobody but the corners stays after the second tick; nobody moves in the third. -/
theorem nested_after_square :
    square.takenPlaces = ∅ ∧
      ((start Mode.adjacent.rule square).after 2).current.takenPlaces ⊂
        ((start Mode.adjacent.rule square).after 1).current.takenPlaces ∧
      ∃ run, (start Mode.adjacent.rule square).run = some run ∧
        run.ticks ≤ square.seatPlaces.card := by
  have hempty : square.takenPlaces = ∅ := by decide +kernel
  have hsome : (start Mode.adjacent.rule square).run.isSome = true := by decide +kernel
  obtain ⟨run, hrun⟩ := Option.isSome_iff_exists.1 hsome
  obtain ⟨hsteps, -, -, -, hticks⟩ := nested_after_start .adjacent 4 true hempty
  refine ⟨hempty, (hsteps 0).2.ssubset_of_ne (by decide +kernel), run, hrun, hticks run hrun⟩

end Simulation

end WaitingRoom
