import WaitingRoom.Layout.Builder
import WaitingRoom.Proofs.Words

/-!
# Lines of sight

What the walks in the eight directions come to, said without walking: a seat is seen from another
one when they lie on one row, one column or one diagonal and no seat stands between them.

* **`Position.Aligned`**, **`Position.Between`**: two positions on one line, and what lies strictly
  between them. Lines are the eight directions put together (`Position.exists_ahead_iff`), and what
  is passed on the way is what lies between (`Position.Ahead.between_iff`).
* **`Layout.Screened`**: a seat stands between two positions.
* **`Layout.mem_sighted_iff`**: the seats seen from a place are the seats aligned with it that no
  other seat screens.
* **`Layout.firstSeat?_exact`**: what is seen in each direction, how many people are seen in all, and
  that seats see each other.
-/

namespace WaitingRoom

/-- Two signs that are not both zero are the shifts of a direction. -/
theorem Direction.exists_of_signs {a b : Int} (h : a ≠ 0 ∨ b ≠ 0) :
    ∃ d : Direction, d.rowShift = a.sign ∧ d.colShift = b.sign := by
  rcases Int.lt_trichotomy a 0 with ha | rfl | ha
  · rw [Int.sign_eq_neg_one_of_neg ha]
    rcases Int.lt_trichotomy b 0 with hb | rfl | hb
    · exact ⟨northWest, rfl, (Int.sign_eq_neg_one_of_neg hb).symm⟩
    · exact ⟨north, rfl, rfl⟩
    · exact ⟨northEast, rfl, (Int.sign_eq_one_of_pos hb).symm⟩
  · rcases Int.lt_trichotomy b 0 with hb | rfl | hb
    · exact ⟨west, rfl, (Int.sign_eq_neg_one_of_neg hb).symm⟩
    · simp at h
    · exact ⟨east, rfl, (Int.sign_eq_one_of_pos hb).symm⟩
  · rw [Int.sign_eq_one_of_pos ha]
    rcases Int.lt_trichotomy b 0 with hb | rfl | hb
    · exact ⟨southWest, rfl, (Int.sign_eq_neg_one_of_neg hb).symm⟩
    · exact ⟨south, rfl, rfl⟩
    · exact ⟨southEast, rfl, (Int.sign_eq_one_of_pos hb).symm⟩

namespace Position

variable {p q s : Position} {d : Direction} {n : Nat}

/-! ### Lines -/

/-- Two positions lie on one row, one column or one diagonal. -/
def Aligned (p q : Position) : Prop :=
  q.row = p.row ∨ q.col = p.col ∨
    ((q.row : Int) - p.row).natAbs = ((q.col : Int) - p.col).natAbs

instance (p q : Position) : Decidable (p.Aligned q) :=
  inferInstanceAs (Decidable (_ ∨ _ ∨ _))

/-- `s` lies strictly between `p` and `q`: on the straight line through them, within the rectangle
of which they are corners, and at neither. -/
def Between (p s q : Position) : Prop :=
  ((s.row : Int) - p.row) * ((q.col : Int) - p.col) =
      ((s.col : Int) - p.col) * ((q.row : Int) - p.row) ∧
    (min p.row q.row ≤ s.row ∧ s.row ≤ max p.row q.row) ∧
    (min p.col q.col ≤ s.col ∧ s.col ≤ max p.col q.col) ∧ s ≠ p ∧ s ≠ q

instance (p s q : Position) : Decidable (p.Between s q) :=
  inferInstanceAs (Decidable (_ ∧ _ ∧ _ ∧ _ ∧ _))

/-- The number of steps from one position to another, straight or diagonal. -/
def steps (p q : Position) : Nat :=
  max ((q.row : Int) - p.row).natAbs ((q.col : Int) - p.col).natAbs

/-- Nobody has to go where they are. -/
@[simp] theorem steps_self (p : Position) : p.steps p = 0 := by
  simp [steps]

/-- What lies ahead is as many steps away as it lies ahead. -/
theorem Ahead.steps_eq (hq : p.Ahead d n q) : p.steps q = n := by
  obtain ⟨hr, hc⟩ := hq
  unfold steps
  cases d <;> simp only [Direction.rowShift, Direction.colShift] at hr hc <;> omega

/-- Whatever lies ahead lies on a line. -/
theorem Ahead.aligned (hq : p.Ahead d n q) : p.Aligned q := by
  obtain ⟨hr, hc⟩ := hq
  unfold Aligned
  cases d <;> simp only [Direction.rowShift, Direction.colShift] at hr hc <;> omega

/-- A number is its sign times its size. -/
theorem natCast_mul_sign {a : Int} (h : a = 0 ∨ n = a.natAbs) : (n : Int) * a.sign = a := by
  rcases h with rfl | rfl
  · exact Int.mul_zero _
  · rw [Int.mul_comm, Int.sign_mul_natAbs]

/-- On a line every other position lies ahead in some direction. -/
theorem Aligned.exists_ahead (hq : p.Aligned q) (hne : q ≠ p) :
    0 < p.steps q ∧ ∃ d, p.Ahead d (p.steps q) q := by
  rw [Ne, Position.ext_iff] at hne
  have hshift : (q.row : Int) - p.row ≠ 0 ∨ (q.col : Int) - p.col ≠ 0 := by omega
  refine ⟨by unfold steps; omega, ?_⟩
  obtain ⟨d, hrow, hcol⟩ := Direction.exists_of_signs hshift
  -- along a line a coordinate stays as it is, or changes by one in each step
  have hr : (p.steps q : Int) * ((q.row : Int) - p.row).sign = (q.row : Int) - p.row := by
    apply natCast_mul_sign
    unfold steps
    unfold Aligned at hq
    omega
  have hc : (p.steps q : Int) * ((q.col : Int) - p.col).sign = (q.col : Int) - p.col := by
    apply natCast_mul_sign
    unfold steps
    unfold Aligned at hq
    omega
  refine ⟨d, ?_, ?_⟩
  · rw [hrow, hr]
    omega
  · rw [hcol, hc]
    omega

/-- The lines through a position are its eight directions. -/
theorem exists_ahead_iff : (∃ d n, 0 < n ∧ p.Ahead d n q) ↔ q ≠ p ∧ p.Aligned q := by
  constructor
  · rintro ⟨d, n, hn, hq⟩
    refine ⟨?_, hq.aligned⟩
    rintro rfl
    have hzero := q.steps_self.symm.trans hq.steps_eq
    omega
  · rintro ⟨hne, hq⟩
    obtain ⟨hpos, d, hahead⟩ := hq.exists_ahead hne
    exact ⟨d, _, hpos, hahead⟩

/-- Steps of at most one, all equal, reach just the numbers between their ends. -/
theorem exists_steps_iff {a b c : Nat} {shift : Int} (hshift : shift.natAbs ≤ 1)
    (hb : (b : Int) = a + n * shift) :
    (∃ j ≤ n, (c : Int) = a + j * shift) ↔ min a b ≤ c ∧ c ≤ max a b := by
  obtain rfl | rfl | rfl : shift = -1 ∨ shift = 0 ∨ shift = 1 := by omega
  · exact ⟨by rintro ⟨j, hj, hc⟩; omega, fun hc => ⟨a - c, by omega, by omega⟩⟩
  · exact ⟨by rintro ⟨j, hj, hc⟩; omega, fun hc => ⟨0, by omega, by omega⟩⟩
  · exact ⟨by rintro ⟨j, hj, hc⟩; omega, fun hc => ⟨c - a, by omega, by omega⟩⟩

/-- On the straight line through a position and one ahead, both coordinates change at the rates of
the direction. -/
theorem Ahead.cross_iff (hn : 0 < n) (hq : p.Ahead d n q) :
    ((s.row : Int) - p.row) * ((q.col : Int) - p.col) =
        ((s.col : Int) - p.col) * ((q.row : Int) - p.row) ↔
      ((s.row : Int) - p.row) * d.colShift = ((s.col : Int) - p.col) * d.rowShift := by
  obtain ⟨hr, hc⟩ := hq
  have hrow : (q.row : Int) - p.row = n * d.rowShift := by omega
  have hcol : (q.col : Int) - p.col = n * d.colShift := by omega
  rw [hrow, hcol, Int.mul_left_comm, Int.mul_left_comm _ (n : Int)]
  exact Int.mul_eq_mul_left_iff (by omega)

/-- What lies between a position and one ahead is what is passed on the way. -/
theorem Ahead.between_iff (hn : 0 < n) (hq : p.Ahead d n q) :
    p.Between s q ↔ ∃ j, 0 < j ∧ j < n ∧ p.Ahead d j s := by
  have hshift : d.rowShift.natAbs ≤ 1 ∧ d.colShift.natAbs ≤ 1 := by cases d <;> decide
  rw [Between, hq.cross_iff hn, ← exists_steps_iff hshift.1 hq.1, ← exists_steps_iff hshift.2 hq.2]
  constructor
  · rintro ⟨hcross, ⟨i, hi, hr⟩, ⟨j, hj, hc⟩, hsp, hsq⟩
    have hahead : ∃ k ≤ n, p.Ahead d k s := by
      by_cases hrow : d.rowShift = 0
      · -- the row stands still, and the column tells the steps
        refine ⟨j, hj, ?_, hc⟩
        rw [hr, hrow, Int.mul_zero, Int.mul_zero]
      · have hr' : (s.row : Int) - p.row = i * d.rowShift := by omega
        have hc' : (s.col : Int) - p.col = j * d.colShift := by omega
        rw [hr', hc', Int.mul_right_comm] at hcross
        refine ⟨i, hi, hr, ?_⟩
        rw [hc, Int.eq_of_mul_eq_mul_right hrow hcross]
    obtain ⟨k, hk, hahead⟩ := hahead
    refine ⟨k, Nat.pos_of_ne_zero ?_, lt_of_le_of_ne hk ?_, hahead⟩
    · rintro rfl
      exact hsp (hahead.unique ⟨by simp, by simp⟩)
    · rintro rfl
      exact hsq (hahead.unique hq)
  · rintro ⟨j, hj, hjn, hs⟩
    have hrow : (s.row : Int) - p.row = j * d.rowShift := by have := hs.1; omega
    have hcol : (s.col : Int) - p.col = j * d.colShift := by have := hs.2; omega
    refine ⟨?_, ⟨j, hjn.le, hs.1⟩, ⟨j, hjn.le, hs.2⟩, ?_, ?_⟩
    · rw [hrow, hcol, Int.mul_right_comm]
    · rintro rfl
      have hzero := s.steps_self.symm.trans hs.steps_eq
      omega
    · rintro rfl
      have hsteps := hs.steps_eq.symm.trans hq.steps_eq
      omega

end Position

/-! ### What is seen from a place -/

namespace Layout

variable {g : Layout} {p q s : Position} {d : Direction} {n : Nat}

/-- `q` is the first seat from `p` in direction `d`: a place with a seat some steps ahead, and every
step before it leads to floor inside the walls. -/
def FirstAhead (g : Layout) (p : Position) (d : Direction) (q : Position) : Prop :=
  ∃ k, 1 ≤ k ∧ p.Ahead d k q ∧ (q ∈ g ∧ g.isSeat q = true) ∧
    ∀ j, 0 < j → j < k → ∃ s, p.Ahead d j s ∧ s ∈ g ∧ g.isSeat s = false

/-- The first seat found is the first one ahead. -/
theorem firstSeat?_eq_some_iff_firstAhead : g.firstSeat? d p = some q ↔ g.FirstAhead p d q := by
  rw [firstSeat?_eq_some_iff]
  refine exists_congr fun k => and_congr_right fun _ => and_congr_right fun _ => ?_
  refine and_congr (and_iff_right_of_imp mem_of_isSeat).symm ?_
  refine forall_congr' fun j => forall_congr' fun _ => forall_congr' fun _ => ?_
  exact exists_congr fun s => and_left_comm

/-- A seat stands strictly between two positions. -/
def Screened (g : Layout) (p q : Position) : Prop :=
  ∃ s ∈ g.positions, p.Between s q ∧ g.isSeat s = true

instance (g : Layout) (p q : Position) : Decidable (g.Screened p q) :=
  inferInstanceAs (Decidable (∃ _ ∈ _, _))

/-- The way to a place is clear when no seat stands between. -/
theorem clearAhead_iff_not_screened (hp : p ∈ g) (hq : q ∈ g) (hn : 0 < n)
    (hahead : p.Ahead d n q) : g.ClearAhead p d n ↔ ¬g.Screened p q := by
  constructor
  · rintro hclear ⟨s, -, hbetween, hseat⟩
    obtain ⟨j, hj, hjn, hs⟩ := (hahead.between_iff hn).1 hbetween
    obtain ⟨t, -, ht, hfloor⟩ := hclear j hj hjn
    rw [hs.unique ht, hfloor] at hseat
    cases hseat
  · intro hscreened j hj hjn
    obtain ⟨s, hmem, hs⟩ := exists_mem_ahead hp hq hahead hjn.le
    refine ⟨s, hmem, hs, ?_⟩
    by_contra hseat
    rw [Bool.not_eq_false] at hseat
    have hbetween := (hahead.between_iff hn).2 ⟨j, hj, hjn, hs⟩
    exact hscreened ⟨s, mem_positions.2 hmem, hbetween, hseat⟩

/-- The seats seen from a place are the seats on a line with it that no other seat screens. -/
theorem mem_sighted_iff (hp : p ∈ g) :
    q ∈ g.sighted p ↔ g.isSeat q = true ∧ q ≠ p ∧ p.Aligned q ∧ ¬g.Screened p q := by
  have hfirst : q ∈ g.sighted p ↔
      ∃ d n, 0 < n ∧ p.Ahead d n q ∧ g.isSeat q = true ∧ g.ClearAhead p d n := by
    rw [sighted, List.mem_filterMap]
    simp only [Direction.mem_all, true_and, firstSeat?_eq_some_iff]
  rw [hfirst]
  constructor
  · rintro ⟨d, n, hn, hahead, hseat, hclear⟩
    obtain ⟨hne, haligned⟩ := Position.exists_ahead_iff.1 ⟨d, n, hn, hahead⟩
    have hscreened := (clearAhead_iff_not_screened hp (mem_of_isSeat hseat) hn hahead).1 hclear
    exact ⟨hseat, hne, haligned, hscreened⟩
  · rintro ⟨hseat, hne, haligned, hscreened⟩
    obtain ⟨d, n, hn, hahead⟩ := Position.exists_ahead_iff.2 ⟨hne, haligned⟩
    have hclear := (clearAhead_iff_not_screened hp (mem_of_isSeat hseat) hn hahead).2 hscreened
    exact ⟨d, n, hn, hahead, hseat, hclear⟩

/-- The people seen from a place, counted without looking in one direction after another. -/
theorem occupied_visible_eq_card (hp : p ∈ g) :
    Mode.visible.occupied g p =
      {q ∈ g.takenPlaces | q ≠ p ∧ p.Aligned q ∧ ¬g.Screened p q}.card := by
  rw [Mode.occupied_eq_card]
  congr 1
  ext q
  have hsighted : q ∈ Mode.visible.near g p ↔ q ∈ g.sighted p := Mode.mem_near
  rw [Finset.mem_inter, Finset.mem_filter, hsighted, mem_sighted_iff hp, mem_takenPlaces]
  refine and_congr_right fun htaken => ?_
  rw [and_iff_right (isSeat_of_isTaken htaken)]

/-- **Sight is exact.** From a place `p` of any layout the walk in a direction ends at the first seat
there, and without a seat exactly when there is none. So the visible mode counts the taken seats on a
row, column or diagonal with `p` that no other seat screens, and seats see each other. Where the size
of the layout is given in machine words, the walk and the count in machine words never overflow and
come to the same. -/
theorem firstSeat?_exact (g : Layout) {p : Position} (hp : p ∈ g) :
    (∀ d q, g.firstSeat? d p = some q ↔ g.FirstAhead p d q) ∧
      (∀ d, g.firstSeat? d p = none ↔ ¬∃ q, g.FirstAhead p d q) ∧
      Mode.visible.occupied g p =
        {q ∈ g.takenPlaces | q ≠ p ∧ p.Aligned q ∧ ¬g.Screened p q}.card ∧
      (∀ q, g.isSeat p = true → g.isSeat q = true → (q ∈ g.sighted p ↔ p ∈ g.sighted q)) ∧
      (g.Fits → (∀ d, g.checkedFirstSeat d p = .ok (g.firstSeat? d p)) ∧
        Mode.visible.checkedOccupied g p = .ok (Mode.visible.occupied g p)) := by
  refine ⟨fun d q => firstSeat?_eq_some_iff_firstAhead, fun d => ?_, occupied_visible_eq_card hp, ?_, ?_⟩
  · simp only [← firstSeat?_eq_some_iff_firstAhead]
    rw [Option.eq_none_iff_forall_ne_some, not_exists]
  · intro q hseat hseat'
    exact Mode.mem_neighbors_comm (m := .visible) hseat hseat'
  · intro hfits
    exact ⟨checkedFirstSeat_eq hfits hp, Mode.checkedOccupied_eq hfits hp .visible⟩

/-- Seats around a floor, three of them taken. -/
def gallery : Layout :=
  let built := ([['L', '.', 'L', 'L'], ['.', '.', '.', '.'], ['L', '.', 'L', '.']].foldl
    Builder.push {}).build
  ((built.occupy ⟨0, 3⟩ true).occupy ⟨2, 0⟩ true).occupy ⟨2, 2⟩ true

/-- From the corner one sees across the floor, but not past the free seat in the same row. -/
theorem firstSeat?_exact_gallery :
    (⟨0, 0⟩ : Position) ∈ gallery ∧ gallery.Fits ∧
      gallery.FirstAhead ⟨0, 0⟩ .southEast ⟨2, 2⟩ ∧
      (¬∃ q, gallery.FirstAhead ⟨0, 0⟩ .northEast q) ∧
      gallery.isTaken ⟨0, 3⟩ = true ∧ gallery.Screened ⟨0, 0⟩ ⟨0, 3⟩ ∧
      Mode.visible.checkedOccupied gallery ⟨0, 0⟩ = .ok 2 := by
  have hp : (⟨0, 0⟩ : Position) ∈ gallery := by decide
  have hfits : gallery.Fits := by decide
  obtain ⟨hsome, hnone, hcount, -, hwords⟩ := firstSeat?_exact gallery hp
  have hseen : {q ∈ gallery.takenPlaces | q ≠ ⟨0, 0⟩ ∧ (⟨0, 0⟩ : Position).Aligned q ∧
      ¬gallery.Screened ⟨0, 0⟩ q}.card = 2 := by decide +kernel
  refine ⟨hp, hfits, (hsome _ _).1 ?_, (hnone _).1 ?_, by decide, by decide +kernel, ?_⟩
  · decide +kernel
  · decide +kernel
  · rw [(hwords hfits).2, hcount, hseen]

end Layout

end WaitingRoom
