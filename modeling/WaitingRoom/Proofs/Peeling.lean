import WaitingRoom.Proofs.Plans
import WaitingRoom.Proofs.Rest

/-!
# Peeling a crowd

From empty seats a crowd fills and empties again, and from round to round more seats are decided for
good. What is not decided yet can be computed without running anything.

* **`Crowd.Nested`**: two steps after a seating nobody of it has left, and nobody sits there who did
  not after one step. Empty seats are nested, and so are two steps later (`Crowd.Nested.step`).
* **`Crowd.loose`**, **`Crowd.peel`**: the seats with fewer others near than the threshold, and what is
  left of seats when the loose ones are taken away with all that are near them.
* **`Crowd.sdiff_iterate_eq_peel`**: the seats that differ between the seatings `2 * i` and
  `2 * i + 1` are those left by `i` rounds of peeling.
* **`Crowd.exists_rest_iff_peel`**: hence a crowd comes to rest from empty seats exactly when peeling
  leaves no seat. It does when in every group of seats some seat is loose
  (`Crowd.exists_peel_eq_empty`).
* **`Simulation.run_adjacent_isSome_iff`**: what this says of rooms read from a plan. The room
  `Simulation.octagon` shows that not all of them come to rest.
-/

namespace WaitingRoom

namespace Crowd

variable {V : Type} [DecidableEq V] {c : Crowd V} {A S X Y : Finset V} {p : V}

/-- People of two separate groups are counted together. -/
theorem count_union (h : Disjoint X Y) (p : V) :
    c.count (X ∪ Y) p = c.count X p + c.count Y p := by
  rw [count, Finset.union_inter_distrib_right]
  exact Finset.card_union_of_disjoint
    (h.mono Finset.inter_subset_left Finset.inter_subset_left)

/-- Where nobody of a group is near, nobody of a smaller one is. -/
theorem count_eq_zero_of_subset (h : X ⊆ Y) (hY : c.count Y p = 0) : c.count X p = 0 :=
  Nat.eq_zero_of_le_zero (hY ▸ count_mono h p)

/-- From nobody seated all sit down. -/
theorem next_empty (c : Crowd V) : c.next ∅ = c.seats := by
  ext p
  rw [mem_next_of_not_mem (Finset.notMem_empty p), count, Finset.empty_inter]
  simp

/-! ### Nested seatings -/

/-- After two steps nobody has left, and everybody was there after one. -/
structure Nested (c : Crowd V) (A : Finset V) : Prop where
  /-- Nobody has left. -/
  stay : A ⊆ c.next (c.next A)
  /-- Everybody was there after one step. -/
  before : c.next (c.next A) ⊆ c.next A

/-- Nobody seated is where nesting begins. -/
theorem nested_empty (c : Crowd V) : c.Nested ∅ := by
  refine ⟨Finset.empty_subset _, ?_⟩
  rw [c.next_empty]
  exact c.next_subset _

namespace Nested

/-- Whoever sits there after two steps has few people near after one. -/
theorem count_lt (hA : c.Nested A) (hp : p ∈ c.next (c.next A)) :
    c.count (c.next A) p < c.threshold :=
  ((mem_next_of_mem (hA.before hp)).1 hp).2

/-- After three steps everybody was there after one. -/
theorem next_subset (hA : c.Nested A) : c.next (c.next (c.next A)) ⊆ c.next A := by
  intro p hp
  by_cases hC : p ∈ c.next (c.next A)
  · exact hA.before hC
  · obtain ⟨hseat, hcount⟩ := (mem_next_of_not_mem hC).1 hp
    refine (mem_next_of_not_mem fun hpA => hC (hA.stay hpA)).2 ⟨hseat, ?_⟩
    exact count_eq_zero_of_subset hA.stay hcount

/-- The third step sends nobody away. -/
theorem subset_next (hA : c.Nested A) :
    c.next (c.next A) ⊆ c.next (c.next (c.next A)) := by
  intro p hp
  refine (mem_next_of_mem hp).2 ⟨c.next_subset _ hp, ?_⟩
  exact (count_mono hA.before p).trans_lt (hA.count_lt hp)

/-- Seatings stay nested. -/
theorem step (hA : c.Nested A) : c.Nested (c.next (c.next A)) := by
  refine ⟨fun p hp => ?_, fun p hp => ?_⟩
  · refine (mem_next_of_mem (hA.subset_next hp)).2 ⟨c.next_subset _ hp, ?_⟩
    exact (count_mono hA.next_subset p).trans_lt (hA.count_lt hp)
  · by_contra hD
    obtain ⟨hseat, hcount⟩ := (mem_next_of_not_mem hD).1 hp
    refine hD ((mem_next_of_not_mem fun hC => hD (hA.subset_next hC)).2 ⟨hseat, ?_⟩)
    exact count_eq_zero_of_subset hA.subset_next hcount

end Nested

/-- Every other seating from empty seats is nested. -/
theorem nested_iterate (c : Crowd V) (i : ℕ) : c.Nested (c.next^[2 * i] ∅) := by
  induction i with
  | zero => exact c.nested_empty
  | succ i ih =>
    rw [Nat.mul_succ, Function.iterate_succ_apply', Function.iterate_succ_apply']
    exact ih.step

/-! ### Rounds of peeling -/

/-- The seats of a group with fewer others of it near than the threshold. -/
def loose (c : Crowd V) (S : Finset V) : Finset V := {p ∈ S | c.count S p < c.threshold}

/-- What is left of a group without its loose seats and all that are near one of them. -/
def peel (c : Crowd V) (S : Finset V) : Finset V :=
  {p ∈ S | c.threshold ≤ c.count S p ∧ c.count (c.loose S) p = 0}

/-- Peeling takes away only. -/
theorem peel_subset (c : Crowd V) (S : Finset V) : c.peel S ⊆ S := Finset.filter_subset _ _

namespace Nested

/-- Everybody is still there after one step. -/
theorem subset_one (hA : c.Nested A) : A ⊆ c.next A := hA.stay.trans hA.before

/-- The seats that a step fills have nobody near, so only those filled with them count after it. -/
theorem count_next (hA : c.Nested A) (hp : p ∈ c.next A \ A) :
    c.count A p = 0 ∧ c.count (c.next A) p = c.count (c.next A \ A) p := by
  obtain ⟨hnext, hpA⟩ := Finset.mem_sdiff.1 hp
  have hzero := ((mem_next_of_not_mem hpA).1 hnext).2
  refine ⟨hzero, ?_⟩
  calc c.count (c.next A) p = c.count (A ∪ c.next A \ A) p := by
        rw [Finset.union_sdiff_of_subset hA.subset_one]
    _ = c.count A p + c.count (c.next A \ A) p := count_union Finset.disjoint_sdiff p
    _ = c.count (c.next A \ A) p := by rw [hzero, Nat.zero_add]

/-- Of the seats that a step fills, the loose ones are kept in the next. -/
theorem next_next_sdiff (hA : c.Nested A) :
    c.next (c.next A) \ A = c.loose (c.next A \ A) := by
  ext p
  rw [loose, Finset.mem_filter]
  constructor
  · intro hp
    obtain ⟨hC, hpA⟩ := Finset.mem_sdiff.1 hp
    have hS : p ∈ c.next A \ A := Finset.mem_sdiff.2 ⟨hA.before hC, hpA⟩
    exact ⟨hS, (hA.count_next hS).2 ▸ hA.count_lt hC⟩
  · rintro ⟨hS, hcount⟩
    obtain ⟨hB, hpA⟩ := Finset.mem_sdiff.1 hS
    rw [← (hA.count_next hS).2] at hcount
    exact Finset.mem_sdiff.2 ⟨(mem_next_of_mem hB).2 ⟨c.next_subset _ hB, hcount⟩, hpA⟩

/-- The seats that the third step fills again are what peeling leaves of those that the first one
filled. -/
theorem sdiff_eq_peel (hA : c.Nested A) :
    c.next (c.next (c.next A)) \ c.next (c.next A) = c.peel (c.next A \ A) := by
  -- who sits there after two steps: who sat there before, and the loose seats
  have hcount : ∀ p, c.count (c.next (c.next A)) p =
      c.count A p + c.count (c.loose (c.next A \ A)) p := by
    intro p
    rw [← hA.next_next_sdiff, ← count_union Finset.disjoint_sdiff,
      Finset.union_sdiff_of_subset hA.stay]
  ext p
  rw [peel, Finset.mem_filter]
  constructor
  · intro hp
    obtain ⟨hD, hC⟩ := Finset.mem_sdiff.1 hp
    have hS : p ∈ c.next A \ A :=
      Finset.mem_sdiff.2 ⟨hA.next_subset hD, fun hpA => hC (hA.stay hpA)⟩
    refine ⟨hS, ?_, ?_⟩
    · by_contra hlt
      refine hC ((mem_next_of_mem (hA.next_subset hD)).2 ⟨c.next_subset _ hD, ?_⟩)
      rw [(hA.count_next hS).2]
      exact not_le.1 hlt
    · have hzero := ((mem_next_of_not_mem hC).1 hD).2
      rw [hcount] at hzero
      exact (Nat.add_eq_zero_iff.1 hzero).2
  · rintro ⟨hS, hfull, hloose⟩
    obtain ⟨hB, hpA⟩ := Finset.mem_sdiff.1 hS
    have hC : p ∉ c.next (c.next A) := by
      intro hC
      have hlt := hA.count_lt hC
      rw [(hA.count_next hS).2] at hlt
      exact absurd hfull (not_le.2 hlt)
    refine Finset.mem_sdiff.2 ⟨(mem_next_of_not_mem hC).2 ⟨c.next_subset _ hB, ?_⟩, hC⟩
    rw [hcount, (hA.count_next hS).1, hloose]

end Nested

/-- **What peeling leaves is what has not settled**: the seats that differ between one seating and the
next are those left by half as many rounds. -/
theorem sdiff_iterate_eq_peel (c : Crowd V) (i : ℕ) :
    c.next^[2 * i + 1] ∅ \ c.next^[2 * i] ∅ = c.peel^[i] c.seats := by
  induction i with
  | zero =>
    rw [Nat.mul_zero, Nat.zero_add, Function.iterate_one, Function.iterate_zero_apply, c.next_empty]
    exact Finset.sdiff_empty
  | succ i ih =>
    rw [Function.iterate_succ_apply' c.peel, ← ih, Nat.mul_succ]
    simp only [Function.iterate_succ_apply' c.next]
    exact (c.nested_iterate i).sdiff_eq_peel

/-- A crowd comes to rest from empty seats exactly when peeling leaves no seat. -/
theorem exists_rest_iff_peel (c : Crowd V) :
    (∃ k, c.next (c.next^[k] ∅) = c.next^[k] ∅) ↔ ∃ n, c.peel^[n] c.seats = ∅ := by
  constructor
  · rintro ⟨k, hk⟩
    refine ⟨k, ?_⟩
    -- a seating that follows itself stays, also until the step twice as far
    have hrest : c.next^[2 * k] ∅ = c.next^[k] ∅ := by
      rw [Nat.two_mul, Function.iterate_add_apply]
      exact Function.iterate_fixed hk k
    rw [← c.sdiff_iterate_eq_peel, Function.iterate_succ_apply', hrest, hk]
    exact Finset.sdiff_self _
  · rintro ⟨n, hn⟩
    refine ⟨2 * n, Finset.Subset.antisymm ?_ (c.nested_iterate n).subset_one⟩
    rw [← c.sdiff_iterate_eq_peel, Function.iterate_succ_apply'] at hn
    exact Finset.sdiff_eq_empty_iff_subset.1 hn

/-- Peeling leaves no seat when some seat is loose in every group. -/
theorem exists_peel_eq_empty (hS : S ⊆ c.seats)
    (hloose : ∀ T ⊆ c.seats, T.Nonempty → ∃ p ∈ T, c.count T p < c.threshold) :
    ∃ n, c.peel^[n] S = ∅ := by
  induction S using Finset.strongInduction with
  | H S ih =>
    rcases S.eq_empty_or_nonempty with rfl | hne
    · exact ⟨0, rfl⟩
    · obtain ⟨p, hp, hcount⟩ := hloose S hS hne
      have hlost : c.peel S ⊂ S := by
        refine (Finset.ssubset_iff_of_subset (c.peel_subset S)).2 ⟨p, hp, fun hpeel => ?_⟩
        exact absurd (Finset.mem_filter.1 hpeel).2.1 (not_le.2 hcount)
      obtain ⟨n, hn⟩ := ih (c.peel S) hlost ((c.peel_subset S).trans hS)
      exact ⟨n + 1, hn⟩

end Crowd

/-! ### Rooms -/

namespace Simulation

/-- A room in which nobody sits comes to rest exactly when peeling leaves none of its seats. -/
theorem exists_quietAt_iff_peel (m : Mode) (threshold : Nat) (tracked : Bool) {g : Layout}
    (hg : g.takenPlaces = ∅) :
    (∃ k, (start (.standard threshold m.occupied tracked) g).QuietAt k) ↔
      ∃ n, (g.crowd (m.counted tracked) threshold).peel^[n] g.seatPlaces = ∅ := by
  simp only [quietAt_start_crowd_iff, hg]
  exact Crowd.exists_rest_iff_peel _

/-- **A room read from a plan, whose people look around and leave at four, comes to rest exactly when
peeling leaves none of its seats**: then some tick is quiet and runs have results, and otherwise no
tick is quiet and runs have none. In particular it comes to rest when every group of seats has a
member with fewer than four others of the group around it. -/
theorem run_adjacent_isSome_iff {lines : List String} {g : Layout}
    (hg : Layout.ofLines lines = .ok g) :
    ((start Mode.adjacent.rule g).run.isSome = true ↔
        ∃ n, (g.crowd .adjacent 4).peel^[n] g.seatPlaces = ∅) ∧
      ((start Mode.adjacent.rule g).run.isSome = true ↔
        ∃ k, ((start Mode.adjacent.rule g).after k).tick.2 = 0) ∧
      ((start Mode.adjacent.rule g).run.isSome = true ↔ (g.settle .adjacent).isSome = true) ∧
      ((∀ S ⊆ g.seatPlaces, S.Nonempty → ∃ p ∈ S, (S ∩ Mode.adjacent.near g p).card < 4) →
        (start Mode.adjacent.rule g).run.isSome = true) := by
  have hquiet : (start Mode.adjacent.rule g).run.isSome = true ↔
      ∃ k, ((start Mode.adjacent.rule g).after k).tick.2 = 0 := run_isSome_iff Mode.adjacent.rule g 0
  have hpeel : (start Mode.adjacent.rule g).run.isSome = true ↔
      ∃ n, (g.crowd .adjacent 4).peel^[n] g.seatPlaces = ∅ :=
    hquiet.trans
      (exists_quietAt_iff_peel .adjacent 4 true (Layout.unused_of_ofRows hg).takenPlaces_eq)
  refine ⟨hpeel, hquiet, ?_, fun hloose => ?_⟩
  · rw [Layout.settle, Option.isSome_map]
  · exact hpeel.2 (Crowd.exists_peel_eq_empty (c := g.crowd .adjacent 4) subset_rfl hloose)

/-- The corners of a full square are loose, and every other seat is next to a corner. -/
theorem run_adjacent_isSome_square :
    ∃ g, Layout.ofLines ["LLL", "LLL", "LLL"] = .ok g ∧
      (start Mode.adjacent.rule g).run.isSome = true := by
  have hread : Layout.ofLines ["LLL", "LLL", "LLL"] = .ok _ := rfl
  exact ⟨_, hread, (run_adjacent_isSome_iff hread).1.2 ⟨1, by decide +kernel⟩⟩

/-- A square of four by four seats without its corners. -/
def octagon : Layout :=
  (((({} : Builder).push ['.', 'L', 'L', '.']).push ['L', 'L', 'L', 'L']).push
    ['L', 'L', 'L', 'L']).push ['.', 'L', 'L', '.'] |>.build

/-- Every seat of the octagon has four others around it, so all are taken and left without end. -/
theorem run_adjacent_octagon :
    Layout.ofLines [".LL.", "LLLL", "LLLL", ".LL."] = .ok octagon ∧
      (∀ k, ((start Mode.adjacent.rule octagon).after k).tick.2 ≠ 0) ∧
      (start Mode.adjacent.rule octagon).run = none ∧ octagon.settle .adjacent = none := by
  have hpeel : (octagon.crowd .adjacent 4).peel octagon.seatPlaces = octagon.seatPlaces := by
    decide +kernel
  have hseats : octagon.seatPlaces ≠ ∅ := by decide +kernel
  have hloud : ¬∃ k, (start Mode.adjacent.rule octagon).QuietAt k := by
    refine mt (exists_quietAt_iff_peel .adjacent 4 true (by decide +kernel)).1 ?_
    rintro ⟨n, hn⟩
    exact hseats ((Function.iterate_fixed hpeel n).symm.trans hn)
  have hrun : (start Mode.adjacent.rule octagon).run = none := by
    rw [← Option.not_isSome_iff_eq_none]
    exact mt (run_isSome_iff Mode.adjacent.rule octagon 0).1 hloud
  refine ⟨rfl, fun k hk => hloud ⟨k, hk⟩, hrun, ?_⟩
  rw [Layout.settle, hrun, Option.map_none]

end Simulation

end WaitingRoom
