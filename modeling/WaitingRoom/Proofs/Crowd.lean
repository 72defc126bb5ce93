import Mathlib.Algebra.BigOperators.Group.Finset.Basic
import Mathlib.Algebra.Order.BigOperators.Group.Finset
import Mathlib.Combinatorics.Enumerative.DoubleCounting
import Mathlib.Data.Finset.SymmDiff
import Mathlib.Logic.Function.Iterate
import Mathlib.Tactic.Ring

/-!
# Crowds

A crowd is what is left of a room when only the question is asked who sits near whom: seats, the seats
near each of them, and the count at which people leave. Nearness is mutual.

* **`Crowd.next`**: who sits next, all deciding at once.
* **`Crowd.pull`**: a seat is taken next exactly when its pull is positive, and the pull is never zero.
* **`Crowd.energy`**: an energy of two seatings in a row. It does not depend on their order
  (`Crowd.energy_comm`), and the seating that follows `Y` has the least energy together with `Y`
  (`Crowd.energy_next_le`). Along a run the energy falls by the number of seats in which a seating
  differs from the one before last.
* **`Crowd.exists_period_two`**: hence every run ends at rest or between two seatings that alternate.
* **`Crowd.next_eq_self_of_period_two`**: no two seatings alternate when people leave at five at the
  earliest and the seats can be ordered so that nobody has more than four near seats behind: the
  first seat that alternates would need five.
-/

namespace WaitingRoom

/-- Seats, who is near whom, and the count of people near at which a taken seat is left. -/
structure Crowd (V : Type) where
  /-- The seats. -/
  seats : Finset V
  /-- What is near a seat. -/
  near : V → Finset V
  /-- The count at which a taken seat is left. -/
  threshold : ℕ
  /-- A seat near another has the other near. -/
  near_symm : ∀ p ∈ seats, ∀ q ∈ seats, q ∈ near p → p ∈ near q

namespace Crowd

variable {V : Type} [DecidableEq V] {c : Crowd V} {X Y Z : Finset V} {p q : V}

/-- The number of people near a seat. -/
def count (c : Crowd V) (X : Finset V) (p : V) : ℕ := (X ∩ c.near p).card

/-- Who sits next: a free seat is taken when nobody is near, and a taken one is kept while fewer are
near than the threshold. -/
def next (c : Crowd V) (X : Finset V) : Finset V :=
  {p ∈ c.seats | if p ∈ X then c.count X p < c.threshold else c.count X p = 0}

/-- Everybody sits on a seat next. -/
theorem next_subset (c : Crowd V) (X : Finset V) : c.next X ⊆ c.seats :=
  Finset.filter_subset _ _

/-- Whoever sits stays below the threshold. -/
theorem mem_next_of_mem (hp : p ∈ X) :
    p ∈ c.next X ↔ p ∈ c.seats ∧ c.count X p < c.threshold := by
  rw [next, Finset.mem_filter, if_pos hp]

/-- Whoever does not sit sits down with nobody near. -/
theorem mem_next_of_not_mem (hp : p ∉ X) :
    p ∈ c.next X ↔ p ∈ c.seats ∧ c.count X p = 0 := by
  rw [next, Finset.mem_filter, if_neg hp]

/-- From seats only, everybody sits on seats for ever. -/
theorem iterate_next_subset (hX : X ⊆ c.seats) (k : ℕ) : c.next^[k] X ⊆ c.seats := by
  cases k with
  | zero => exact hX
  | succ k =>
    rw [Function.iterate_succ_apply']
    exact c.next_subset _

/-- More people are more people near. -/
theorem count_mono (h : X ⊆ Y) (p : V) : c.count X p ≤ c.count Y p :=
  Finset.card_le_card (Finset.inter_subset_inter_right h)

/-! ### The pull of a seat -/

/-- What speaks for taking a seat next, less what speaks against it. Somebody who sits there already
weighs against others, and everybody near weighs twice so that the sides are never even. -/
def pull (c : Crowd V) (Y : Finset V) (p : V) : ℤ :=
  (if p ∈ Y then 2 * ((c.threshold : ℤ) - 1) else 0) + 1 - 2 * c.count Y p

/-- Seats that are taken next pull. -/
theorem one_le_pull_of_mem_next (hp : p ∈ c.next Y) : 1 ≤ c.pull Y p := by
  unfold pull
  by_cases hY : p ∈ Y
  · have hcount := ((mem_next_of_mem hY).1 hp).2
    rw [if_pos hY]
    omega
  · have hcount := ((mem_next_of_not_mem hY).1 hp).2
    rw [if_neg hY]
    omega

/-- Seats that are free next push. -/
theorem pull_le_of_not_mem_next (hseat : p ∈ c.seats) (hp : p ∉ c.next Y) : c.pull Y p ≤ -1 := by
  unfold pull
  by_cases hY : p ∈ Y
  · have hcount : ¬c.count Y p < c.threshold := fun h => hp ((mem_next_of_mem hY).2 ⟨hseat, h⟩)
    rw [if_pos hY]
    omega
  · have hcount : ¬c.count Y p = 0 := fun h => hp ((mem_next_of_not_mem hY).2 ⟨hseat, h⟩)
    rw [if_neg hY]
    omega

/-- No seat pulls more than the threshold lets it. -/
theorem pull_le (c : Crowd V) (Y : Finset V) (p : V) : c.pull Y p ≤ 2 * c.threshold + 1 := by
  unfold pull
  split <;> omega

/-! ### The energy of two seatings -/

/-- The energy of two seatings in a row. -/
def energy (c : Crowd V) (X Y : Finset V) : ℤ := -(∑ p ∈ X, c.pull Y p) - Y.card

/-- Counting the people of one seating near those of another comes to the same from both sides. -/
theorem sum_count_comm (hX : X ⊆ c.seats) (hY : Y ⊆ c.seats) :
    ∑ p ∈ X, c.count Y p = ∑ q ∈ Y, c.count X q := by
  have habove : ∀ p ∈ X, c.count Y p = (Y.bipartiteAbove (fun p q => q ∈ c.near p) p).card := by
    intro p _
    rw [count, Finset.bipartiteAbove, Finset.filter_mem_eq_inter]
  have hbelow : ∀ q ∈ Y, c.count X q = (X.bipartiteBelow (fun p q => q ∈ c.near p) q).card := by
    intro q hq
    rw [count, Finset.bipartiteBelow]
    congr 1
    ext p
    rw [Finset.mem_inter, Finset.mem_filter]
    refine and_congr_right fun hp => ?_
    exact ⟨c.near_symm q (hY hq) p (hX hp), c.near_symm p (hX hp) q (hY hq)⟩
  rw [Finset.sum_congr rfl habove, Finset.sum_congr rfl hbelow]
  exact Finset.sum_card_bipartiteAbove_eq_sum_card_bipartiteBelow _

/-- The energy by counts. -/
theorem energy_eq (c : Crowd V) (X Y : Finset V) :
    c.energy X Y = 2 * ((∑ p ∈ X, c.count Y p : ℕ) : ℤ) -
      2 * ((c.threshold : ℤ) - 1) * (X ∩ Y).card - X.card - Y.card := by
  have hcommon : ∑ p ∈ X, (if p ∈ Y then 2 * ((c.threshold : ℤ) - 1) else 0) =
      2 * ((c.threshold : ℤ) - 1) * (X ∩ Y).card := by
    rw [← Finset.sum_filter, Finset.filter_mem_eq_inter, Finset.sum_const, nsmul_eq_mul, mul_comm]
  unfold energy pull
  rw [Finset.sum_sub_distrib, Finset.sum_add_distrib, hcommon, ← Finset.mul_sum, Finset.sum_const,
    nsmul_eq_mul, mul_one, Nat.cast_sum]
  ring

/-- The energy does not depend on the order of the two seatings. -/
theorem energy_comm (hX : X ⊆ c.seats) (hY : Y ⊆ c.seats) : c.energy X Y = c.energy Y X := by
  rw [energy_eq, energy_eq, sum_count_comm hX hY, Finset.inter_comm]
  ring

/-- Of all seatings, the one that follows `Y` has the least energy together with `Y`. -/
theorem energy_next_le (hX : X ⊆ c.seats) :
    c.energy (c.next Y) Y + (symmDiff (c.next Y) X).card ≤ c.energy X Y := by
  have hgain : ((c.next Y \ X).card : ℤ) ≤ ∑ p ∈ c.next Y \ X, c.pull Y p := by
    have := Finset.card_nsmul_le_sum (c.next Y \ X) (c.pull Y) 1 fun p hp =>
      one_le_pull_of_mem_next (Finset.mem_sdiff.1 hp).1
    simpa using this
  have hloss : ∑ p ∈ X \ c.next Y, c.pull Y p ≤ -((X \ c.next Y).card : ℤ) := by
    have := Finset.sum_le_card_nsmul (X \ c.next Y) (c.pull Y) (-1) fun p hp =>
      pull_le_of_not_mem_next (hX (Finset.mem_sdiff.1 hp).1) (Finset.mem_sdiff.1 hp).2
    simpa using this
  have hdiff : ∑ p ∈ c.next Y \ X, c.pull Y p - ∑ p ∈ X \ c.next Y, c.pull Y p =
      ∑ p ∈ c.next Y, c.pull Y p - ∑ p ∈ X, c.pull Y p := Finset.sum_sdiff_sub_sum_sdiff
  have hcard : (symmDiff (c.next Y) X).card = (c.next Y \ X).card + (X \ c.next Y).card :=
    Finset.card_union_of_disjoint disjoint_sdiff_sdiff
  unfold energy
  omega

/-- The energy is bounded below. -/
theorem energy_ge (hX : X ⊆ c.seats) (hY : Y ⊆ c.seats) :
    -((2 * c.threshold + 1) * c.seats.card + c.seats.card : ℤ) ≤ c.energy X Y := by
  have hsum : ∑ p ∈ X, c.pull Y p ≤ X.card • (2 * (c.threshold : ℤ) + 1) :=
    Finset.sum_le_card_nsmul X (c.pull Y) _ fun p _ => c.pull_le Y p
  have hXcard : (X.card : ℤ) ≤ c.seats.card := by exact_mod_cast Finset.card_le_card hX
  have hYcard : (Y.card : ℤ) ≤ c.seats.card := by exact_mod_cast Finset.card_le_card hY
  have hmul : X.card • (2 * (c.threshold : ℤ) + 1) ≤ (2 * c.threshold + 1) * c.seats.card := by
    rw [nsmul_eq_mul, mul_comm]
    exact Int.mul_le_mul_of_nonneg_left hXcard (by omega)
  unfold energy
  omega

/-! ### Runs come to rest or alternate -/

/-- Along a run the energy falls by what a seating differs from the one before last. -/
theorem energy_iterate_succ_le (hX : X ⊆ c.seats) (k : ℕ) :
    c.energy (c.next^[k + 2] X) (c.next^[k + 1] X) +
        (symmDiff (c.next^[k + 2] X) (c.next^[k] X)).card ≤
      c.energy (c.next^[k + 1] X) (c.next^[k] X) := by
  rw [energy_comm (iterate_next_subset hX (k + 1)) (iterate_next_subset hX k),
    Function.iterate_succ_apply' c.next (k + 1)]
  exact energy_next_le (iterate_next_subset hX k)

/-- Every run reaches a seating that returns after two steps. -/
theorem exists_period_two (hX : X ⊆ c.seats) : ∃ k, c.next^[k + 2] X = c.next^[k] X := by
  by_contra hne
  rw [not_exists] at hne
  -- otherwise the energy falls by one at least in each step, below any bound
  have hfall : ∀ k : ℕ, c.energy (c.next^[k + 1] X) (c.next^[k] X) + k ≤ c.energy (c.next X) X := by
    intro k
    induction k with
    | zero => simp
    | succ k ih =>
      have hstep : c.energy (c.next^[k + 1 + 1] X) (c.next^[k + 1] X) + _ ≤ _ :=
        energy_iterate_succ_le hX k
      have hpos : 0 < (symmDiff (c.next^[k + 2] X) (c.next^[k] X)).card := by
        rw [Finset.card_pos, Finset.symmDiff_nonempty]
        exact hne k
      push_cast
      omega
  have hbound := fun k => energy_ge (iterate_next_subset hX (k + 1)) (iterate_next_subset hX k)
  generalize -((2 * c.threshold + 1) * c.seats.card + c.seats.card : ℤ) = b at hbound
  have hlast := hfall (c.energy (c.next X) X - b + 1).toNat
  have := hbound (c.energy (c.next X) X - b + 1).toNat
  omega

/-- Of two alternating seatings, whoever leaves one of them has as many people near who leave it too
as it takes to leave. -/
theorem threshold_le_card_leaving (hZ : c.next (c.next Z) = Z) (hp : p ∈ Z \ c.next Z) :
    c.threshold ≤ ((Z \ c.next Z) ∩ c.near p).card := by
  obtain ⟨hpZ, hpnext⟩ := Finset.mem_sdiff.1 hp
  have hback : p ∈ c.seats ∧ c.count (c.next Z) p = 0 := by
    rw [← mem_next_of_not_mem hpnext, hZ]
    exact hpZ
  have hleft : c.threshold ≤ c.count Z p := by
    by_contra hlt
    exact hpnext ((mem_next_of_mem hpZ).2 ⟨hback.1, not_le.1 hlt⟩)
  -- nobody near stays: those who stayed would keep the seat from being taken again
  have hleaving : Z ∩ c.near p ⊆ (Z \ c.next Z) ∩ c.near p := by
    intro q hq
    obtain ⟨hqZ, hqnear⟩ := Finset.mem_inter.1 hq
    refine Finset.mem_inter.2 ⟨Finset.mem_sdiff.2 ⟨hqZ, fun hqnext => ?_⟩, hqnear⟩
    have hempty := Finset.card_eq_zero.1 hback.2
    exact Finset.notMem_empty q (hempty ▸ Finset.mem_inter.2 ⟨hqnext, hqnear⟩)
  exact hleft.trans (Finset.card_le_card hleaving)

/-- Nobody alternates when people leave at five at the earliest and each seat has at most four near
seats that do not come before it in some order. -/
theorem next_eq_self_of_period_two {α : Type} [LinearOrder α] (order : V → α)
    (hlater : ∀ p, {q ∈ c.near p | order p ≤ order q}.card ≤ 4) (hfive : 5 ≤ c.threshold)
    (hX : c.next (c.next X) = X) : c.next X = X := by
  by_contra hne
  have hnonempty : (symmDiff X (c.next X)).Nonempty := Finset.symmDiff_nonempty.2 (Ne.symm hne)
  -- the first of the seats that alternate
  obtain ⟨p, hp, hfirst⟩ := Finset.exists_min_image _ order hnonempty
  have hfew : ∀ Z, c.next (c.next Z) = Z → Z \ c.next Z ⊆ symmDiff X (c.next X) →
      p ∉ Z \ c.next Z := by
    intro Z hZ hsub hpZ
    have hsub' : (Z \ c.next Z) ∩ c.near p ⊆ {q ∈ c.near p | order p ≤ order q} := by
      intro q hq
      obtain ⟨hqZ, hqnear⟩ := Finset.mem_inter.1 hq
      exact Finset.mem_filter.2 ⟨hqnear, hfirst q (hsub hqZ)⟩
    have hcard := (threshold_le_card_leaving hZ hpZ).trans
      ((Finset.card_le_card hsub').trans (hlater p))
    omega
  rcases Finset.mem_symmDiff.1 hp with ⟨hpX, hpnext⟩ | ⟨hpnext, hpX⟩
  · refine hfew X hX ?_ (Finset.mem_sdiff.2 ⟨hpX, hpnext⟩)
    exact Finset.subset_union_left
  · refine hfew (c.next X) (by rw [hX]) ?_ ?_
    · rw [hX]
      exact Finset.subset_union_right
    · rw [hX]
      exact Finset.mem_sdiff.2 ⟨hpnext, hpX⟩

end Crowd

end WaitingRoom
