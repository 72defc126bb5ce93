import Mathlib.Data.Finset.Card
import Mathlib.Data.Prod.Lex
import WaitingRoom.Mode
import WaitingRoom.Proofs.Seating

/-!
# Who is near whom

Both modes look from a place in the eight directions and see one place at most in each.

* **`Position.Ahead`**: a position lies so many steps away in a direction. Looking back from there,
  the first position lies as many steps away in the opposite direction (`Position.Ahead.symm`).
* **`Layout.firstSeat?_eq_some_iff`**: the first seat in a direction is the seat ahead with nothing
  but floor in between.
* **`Mode.look`**: what a mode sees in one direction. A seat that sees a seat is seen by it
  (`Mode.mem_neighbors_comm`), nobody is seen twice (`Mode.nodup_neighbors`), and in reading order at
  most four of the places seen come after the place itself (`Mode.card_later_neighbors`).
* **`Mode.neighbors_congr`**: what is near depends on the floor alone.
-/

namespace WaitingRoom

/-! ### Directions and their opposites -/

namespace Direction

/-- The direction that leads back. -/
def opposite : Direction → Direction
  | northWest => southEast
  | north => south
  | northEast => southWest
  | west => east
  | east => west
  | southWest => northEast
  | south => north
  | southEast => northWest

/-- The opposite direction goes back over the rows. -/
theorem rowShift_opposite (d : Direction) : d.opposite.rowShift = -d.rowShift := by
  cases d <;> rfl

/-- It goes back over the columns. -/
theorem colShift_opposite (d : Direction) : d.opposite.colShift = -d.colShift := by
  cases d <;> rfl

/-- A shift is its own sign. -/
theorem sign_rowShift (d : Direction) : d.rowShift.sign = d.rowShift := by
  cases d <;> rfl

/-- A shift of columns is its own sign. -/
theorem sign_colShift (d : Direction) : d.colShift.sign = d.colShift := by
  cases d <;> rfl

/-- The two shifts tell the direction. -/
theorem eq_of_shifts {d e : Direction} (hrow : d.rowShift = e.rowShift)
    (hcol : d.colShift = e.colShift) : d = e := by
  cases d <;> cases e <;> first | rfl | exact absurd hrow (by decide) | exact absurd hcol (by decide)

/-- The directions that lead on in reading order. -/
def onward : List Direction := [east, southWest, south, southEast]

/-- Any other direction leads to an earlier row, or to an earlier place of the same row. -/
theorem backward_of_not_mem_onward {d : Direction} (h : d ∉ onward) :
    d.rowShift = -1 ∨ d.rowShift = 0 ∧ d.colShift = -1 := by
  cases d <;> first | exact absurd (by decide) h | decide

end Direction

/-! ### Positions ahead -/

namespace Position

variable {p q s : Position} {d e : Direction} {m n : Nat}

/-- `q` lies `n` steps away from `p` in direction `d`. -/
def Ahead (p : Position) (d : Direction) (n : Nat) (q : Position) : Prop :=
  (q.row : Int) = p.row + n * d.rowShift ∧ (q.col : Int) = p.col + n * d.colShift

/-- A step leads one place ahead. -/
theorem toward_eq_some_iff_ahead : p.toward d = some q ↔ p.Ahead d 1 q := by
  rw [toward_eq_some_iff, Ahead, Int.natCast_one, Int.one_mul, Int.one_mul]

namespace Ahead

/-- Places ahead of places ahead are ahead, at the sum of the distances. -/
theorem trans (hs : p.Ahead d m s) (hq : s.Ahead d n q) : p.Ahead d (m + n) q := by
  obtain ⟨hr, hc⟩ := hs
  obtain ⟨hr', hc'⟩ := hq
  refine ⟨?_, ?_⟩
  · rw [hr', hr, Int.natCast_add, Int.add_mul, Int.add_assoc]
  · rw [hc', hc, Int.natCast_add, Int.add_mul, Int.add_assoc]

/-- What lies further ahead lies ahead of what is nearer. -/
theorem of_add (hs : p.Ahead d m s) (hq : p.Ahead d (m + n) q) : s.Ahead d n q := by
  obtain ⟨hr, hc⟩ := hs
  obtain ⟨hr', hc'⟩ := hq
  rw [Int.natCast_add, Int.add_mul] at hr' hc'
  exact ⟨by omega, by omega⟩

/-- What is ahead in a direction sees one ahead in the opposite one. -/
theorem symm (hq : p.Ahead d n q) : q.Ahead d.opposite n p := by
  obtain ⟨hr, hc⟩ := hq
  refine ⟨?_, ?_⟩
  · rw [Direction.rowShift_opposite, Int.mul_neg]
    omega
  · rw [Direction.colShift_opposite, Int.mul_neg]
    omega

/-- One place is ahead at a distance. -/
theorem unique (hq : p.Ahead d n q) (hs : p.Ahead d n s) : q = s := by
  apply Position.ext
  · exact Int.ofNat.inj (hq.1.trans hs.1.symm)
  · exact Int.ofNat.inj (hq.2.trans hs.2.symm)

/-- Two positions determine the direction from one to the other. -/
theorem direction_eq (hm : 0 < m) (hn : 0 < n) (hd : p.Ahead d m q) (he : p.Ahead e n q) :
    d = e := by
  have hm' : (m : Int).sign = 1 := Int.sign_eq_one_of_pos (by omega)
  have hn' : (n : Int).sign = 1 := Int.sign_eq_one_of_pos (by omega)
  have hrow : (m : Int) * d.rowShift = n * e.rowShift := by
    have := hd.1.symm.trans he.1
    omega
  have hcol : (m : Int) * d.colShift = n * e.colShift := by
    have := hd.2.symm.trans he.2
    omega
  -- a positive multiple of a shift has the shift as its sign
  apply Direction.eq_of_shifts
  · have := congrArg Int.sign hrow
    rwa [Int.sign_mul, Int.sign_mul, hm', hn', Int.one_mul, Int.one_mul, Direction.sign_rowShift,
      Direction.sign_rowShift] at this
  · have := congrArg Int.sign hcol
    rwa [Int.sign_mul, Int.sign_mul, hm', hn', Int.one_mul, Int.one_mul, Direction.sign_colShift,
      Direction.sign_colShift] at this

end Ahead

/-- The place of a position in reading order: by rows, then by columns. -/
def readingOrder (p : Position) : ℕ ×ₗ ℕ := toLex (p.row, p.col)

/-- Whatever does not lie behind in reading order is seen in one of the four onward directions. -/
theorem Ahead.mem_onward (hn : 0 < n) (hq : p.Ahead d n q)
    (hle : p.readingOrder ≤ q.readingOrder) : d ∈ Direction.onward := by
  by_contra hd
  obtain ⟨hr, hc⟩ := hq
  rw [readingOrder, readingOrder, Prod.Lex.toLex_le_toLex] at hle
  rcases Direction.backward_of_not_mem_onward hd with hrow | ⟨hrow, hcol⟩
  · rw [hrow] at hr
    simp only at hle
    omega
  · rw [hrow] at hr
    rw [hcol] at hc
    simp only at hle
    omega

end Position

/-! ### The first seat in a direction -/

namespace Layout

variable {g h : Layout} {p q s : Position} {d : Direction} {n : Nat}

/-- Equal steps from one number to another stay between them. -/
theorem exists_between {a b bound j : Nat} {shift : Int} (ha : a < bound) (hb : b < bound)
    (hab : (b : Int) = a + n * shift) (hj : j ≤ n) : ∃ c < bound, (c : Int) = a + j * shift := by
  have hbounds : 0 ≤ a + j * shift ∧ a + j * shift < bound := by
    rcases le_total 0 shift with hshift | hshift
    · have hstart : 0 ≤ j * shift := Int.mul_nonneg (Int.natCast_nonneg j) hshift
      have hend : j * shift ≤ n * shift := Int.mul_le_mul_of_nonneg_right (by omega) hshift
      omega
    · have hstart : j * shift ≤ 0 :=
        Int.mul_nonpos_of_nonneg_of_nonpos (Int.natCast_nonneg j) hshift
      have hend : n * shift ≤ j * shift := Int.mul_le_mul_of_nonpos_right (by omega) hshift
      omega
  exact ⟨(a + j * shift).toNat, by omega, by omega⟩

/-- On the way from one place of a room to another all places are inside. -/
theorem exists_mem_ahead (hp : p ∈ g) (hq : q ∈ g) (hahead : p.Ahead d n q) {j : Nat} (hj : j ≤ n) :
    ∃ s ∈ g, p.Ahead d j s := by
  obtain ⟨row, hrow, hrows⟩ := exists_between hp.1 hq.1 hahead.1 hj
  obtain ⟨col, hcol, hcols⟩ := exists_between hp.2 hq.2 hahead.2 hj
  exact ⟨⟨row, col⟩, ⟨hrow, hcol⟩, hrows, hcols⟩

/-- Less than `n` steps from `p` in direction `d` there is nothing but floor. -/
def ClearAhead (g : Layout) (p : Position) (d : Direction) (n : Nat) : Prop :=
  ∀ j, 0 < j → j < n → ∃ s ∈ g, p.Ahead d j s ∧ g.isSeat s = false

/-- Nothing stands between neighbours. -/
theorem clearAhead_one (g : Layout) (p : Position) (d : Direction) : g.ClearAhead p d 1 :=
  fun j hj hj' => absurd hj' (by omega)

/-- The way ahead is clear when the first step leads to floor and the rest of the way is clear. -/
theorem clearAhead_succ_iff (hn : 0 < n) (hs : p.Ahead d 1 s) :
    g.ClearAhead p d (n + 1) ↔ (s ∈ g ∧ g.isSeat s = false) ∧ g.ClearAhead s d n := by
  constructor
  · intro hclear
    refine ⟨?_, fun j hj hjn => ?_⟩
    · obtain ⟨t, ht, hahead, hfloor⟩ := hclear 1 Nat.one_pos (by omega)
      rw [hs.unique hahead]
      exact ⟨ht, hfloor⟩
    · obtain ⟨t, ht, hahead, hfloor⟩ := hclear (1 + j) (by omega) (by omega)
      exact ⟨t, ht, hs.of_add hahead, hfloor⟩
  · rintro ⟨⟨hmem, hfloor⟩, hclear⟩ j hj hjn
    rcases Nat.eq_or_lt_of_le (Nat.succ_le_of_lt hj) with rfl | hlt
    · exact ⟨s, hmem, hs, hfloor⟩
    · obtain ⟨t, ht, hahead, hfloor'⟩ := hclear (j - 1) (by omega) (by omega)
      refine ⟨t, ht, ?_, hfloor'⟩
      have := hs.trans hahead
      rwa [Nat.add_sub_cancel' (Nat.succ_le_of_lt hj)] at this

/-- A clear way is clear in both directions. -/
theorem ClearAhead.symm (hq : p.Ahead d n q) (hclear : g.ClearAhead p d n) :
    g.ClearAhead q d.opposite n := by
  intro j hj hjn
  obtain ⟨s, hs, hahead, hfloor⟩ := hclear (n - j) (by omega) (by omega)
  refine ⟨s, hs, ?_, hfloor⟩
  have hsq : s.Ahead d j q := by
    apply hahead.of_add
    rwa [Nat.sub_add_cancel (Nat.le_of_lt hjn)]
  exact hsq.symm

/-- On a clear way to a seat the first step stays inside: it leads to the seat, or to floor before
it. -/
theorem ClearAhead.exists_first (hn : 0 < n) (hq : p.Ahead d n q) (hseat : g.isSeat q = true)
    (hclear : g.ClearAhead p d n) :
    ∃ s ∈ g, p.Ahead d 1 s ∧ (s = q ∨ g.isSeat s = false ∧ 1 < n) := by
  rcases Nat.eq_or_lt_of_le (Nat.succ_le_of_lt hn) with rfl | hlt
  · exact ⟨q, mem_of_isSeat hseat, hq, .inl rfl⟩
  · obtain ⟨s, hmem, hs, hfloor⟩ := hclear 1 Nat.one_pos hlt
    exact ⟨s, hmem, hs, .inr ⟨hfloor, hlt⟩⟩

/-- The first seat in a direction is the seat ahead with nothing but floor in between. -/
theorem firstSeat?_eq_some_iff :
    g.firstSeat? d p = some q ↔
      ∃ n, 0 < n ∧ p.Ahead d n q ∧ g.isSeat q = true ∧ g.ClearAhead p d n := by
  fun_induction g.firstSeat? d p with
  | case1 p hnone =>
    -- beyond the wall there is neither a seat nor floor to look across
    simp only [reduceCtorEq, false_iff]
    rintro ⟨n, hn, hq, hseat, hclear⟩
    obtain ⟨s, -, hs, -⟩ := hclear.exists_first hn hq hseat
    rw [Position.toward_eq_some_iff_ahead.2 hs] at hnone
    cases hnone
  | case2 p s hs hmem _ hseat =>
    rw [Position.toward_eq_some_iff_ahead] at hs
    rw [Option.some.injEq]
    constructor
    · rintro rfl
      exact ⟨1, Nat.one_pos, hs, hseat, g.clearAhead_one p d⟩
    · rintro ⟨n, hn, hq, hseat', hclear⟩
      obtain ⟨t, -, ht, heq | ⟨hfloor, -⟩⟩ := hclear.exists_first hn hq hseat'
      · rw [hs.unique ht, heq]
      · rw [← hs.unique ht, hseat] at hfloor
        cases hfloor
  | case3 p s hs hmem _ hfloor ih =>
    rw [Position.toward_eq_some_iff_ahead] at hs
    rw [Bool.not_eq_true] at hfloor
    rw [ih]
    constructor
    · rintro ⟨n, hn, hq, hseat, hclear⟩
      refine ⟨n + 1, Nat.succ_pos n, ?_, hseat, ?_⟩
      · rw [Nat.add_comm]
        exact hs.trans hq
      · exact (clearAhead_succ_iff hn hs).2 ⟨⟨hmem, hfloor⟩, hclear⟩
    · rintro ⟨n, hn, hq, hseat, hclear⟩
      obtain ⟨t, -, ht, heq | ⟨-, hlt⟩⟩ := hclear.exists_first hn hq hseat
      · rw [hs.unique ht, heq, hseat] at hfloor
        cases hfloor
      · obtain ⟨m, rfl⟩ := Nat.exists_eq_add_of_le' hn
        have hm : 0 < m := by omega
        refine ⟨m, hm, hs.of_add (by rwa [Nat.add_comm]), hseat, ?_⟩
        exact ((clearAhead_succ_iff hm hs).1 hclear).2
  | case4 p s hs hmem =>
    rw [Position.toward_eq_some_iff_ahead] at hs
    simp only [reduceCtorEq, false_iff]
    rintro ⟨n, hn, hq, hseat, hclear⟩
    obtain ⟨t, ht, hahead, -⟩ := hclear.exists_first hn hq hseat
    rw [hs.unique hahead] at hmem
    exact hmem ht

end Layout

/-! ### What a mode sees -/

namespace Mode

variable {m : Mode} {g h : Layout} {p q : Position} {d e : Direction}

/-- What a mode sees from a place in one direction. -/
def look (m : Mode) (g : Layout) (p : Position) (d : Direction) : Option Position :=
  match m with
  | adjacent => (p.toward d).filter (· ∈ g)
  | visible => g.firstSeat? d p

/-- The places near are those seen in the eight directions. -/
theorem neighbors_eq_filterMap (m : Mode) (g : Layout) (p : Position) :
    m.neighbors g p = Direction.all.filterMap (m.look g p) := by
  cases m with
  | adjacent =>
    simp only [neighbors, Layout.adjacent, List.filter_filterMap]
    rfl
  | visible => rfl

/-- The neighbours are what is seen in some direction. -/
theorem mem_neighbors_iff : q ∈ m.neighbors g p ↔ ∃ d, m.look g p d = some q := by
  simp [neighbors_eq_filterMap]

/-- In the adjacent mode one sees the next place. -/
theorem look_adjacent_eq_some_iff :
    adjacent.look g p d = some q ↔ p.Ahead d 1 q ∧ q ∈ g := by
  simp [look, Option.filter_eq_some_iff, Position.toward_eq_some_iff_ahead]

/-- Whatever is seen lies ahead and inside. -/
theorem exists_ahead_of_look (hq : m.look g p d = some q) :
    ∃ n, 0 < n ∧ p.Ahead d n q ∧ q ∈ g := by
  cases m with
  | adjacent =>
    obtain ⟨hahead, hmem⟩ := look_adjacent_eq_some_iff.1 hq
    exact ⟨1, Nat.one_pos, hahead, hmem⟩
  | visible =>
    obtain ⟨n, hn, hahead, hseat, -⟩ := Layout.firstSeat?_eq_some_iff.1 hq
    exact ⟨n, hn, hahead, Layout.mem_of_isSeat hseat⟩

/-- A seat is seen from whatever it sees, in the opposite direction. -/
theorem look_opposite (hp : g.isSeat p = true) (hq : m.look g p d = some q) :
    m.look g q d.opposite = some p := by
  cases m with
  | adjacent =>
    obtain ⟨hahead, -⟩ := look_adjacent_eq_some_iff.1 hq
    exact look_adjacent_eq_some_iff.2 ⟨hahead.symm, Layout.mem_of_isSeat hp⟩
  | visible =>
    obtain ⟨n, hn, hahead, -, hclear⟩ := Layout.firstSeat?_eq_some_iff.1 hq
    exact Layout.firstSeat?_eq_some_iff.2 ⟨n, hn, hahead.symm, hp, hclear.symm hahead⟩

/-- Nobody is seen in two directions. -/
theorem direction_eq_of_look (hd : m.look g p d = some q) (he : m.look g p e = some q) :
    d = e := by
  obtain ⟨k, hk, hahead, -⟩ := exists_ahead_of_look hd
  obtain ⟨n, hn, hahead', -⟩ := exists_ahead_of_look he
  exact hahead.direction_eq hk hn hahead'

/-- No neighbour is listed twice. -/
theorem nodup_neighbors (m : Mode) (g : Layout) (p : Position) : (m.neighbors g p).Nodup := by
  rw [neighbors_eq_filterMap]
  exact Direction.nodup_all.filterMap fun d e q hd he => direction_eq_of_look hd he

/-- Neighbours are inside the walls. -/
theorem mem_of_mem_neighbors (hq : q ∈ m.neighbors g p) : q ∈ g := by
  obtain ⟨d, hd⟩ := mem_neighbors_iff.1 hq
  obtain ⟨-, -, -, hmem⟩ := exists_ahead_of_look hd
  exact hmem

/-- A seat is a neighbour of its neighbours. -/
theorem mem_neighbors_symm (hp : g.isSeat p = true) (hq : q ∈ m.neighbors g p) :
    p ∈ m.neighbors g q := by
  obtain ⟨d, hd⟩ := mem_neighbors_iff.1 hq
  exact mem_neighbors_iff.2 ⟨d.opposite, look_opposite hp hd⟩

/-- Seats see each other. -/
theorem mem_neighbors_comm (hp : g.isSeat p = true) (hq : g.isSeat q = true) :
    q ∈ m.neighbors g p ↔ p ∈ m.neighbors g q :=
  ⟨mem_neighbors_symm hp, mem_neighbors_symm hq⟩

/-- In reading order at most four of the places near come after the place itself. -/
theorem card_later_neighbors (m : Mode) (g : Layout) (p : Position) :
    {q ∈ (m.neighbors g p).toFinset | p.readingOrder ≤ q.readingOrder}.card ≤ 4 := by
  have hsub : {q ∈ (m.neighbors g p).toFinset | p.readingOrder ≤ q.readingOrder} ⊆
      (Direction.onward.filterMap (m.look g p)).toFinset := by
    intro q hq
    rw [Finset.mem_filter, List.mem_toFinset] at hq
    obtain ⟨hnear, hle⟩ := hq
    obtain ⟨d, hd⟩ := mem_neighbors_iff.1 hnear
    obtain ⟨n, hn, hahead, -⟩ := exists_ahead_of_look hd
    rw [List.mem_toFinset, List.mem_filterMap]
    exact ⟨d, hahead.mem_onward hn hle, hd⟩
  calc {q ∈ (m.neighbors g p).toFinset | p.readingOrder ≤ q.readingOrder}.card
      ≤ (Direction.onward.filterMap (m.look g p)).toFinset.card := Finset.card_le_card hsub
    _ ≤ (Direction.onward.filterMap (m.look g p)).length := List.toFinset_card_le _
    _ ≤ Direction.onward.length := List.length_filterMap_le _ _

/-- What is seen depends on the floor alone. -/
theorem look_congr (hgh : g.SameFloor h) (m : Mode) (p : Position) (d : Direction) :
    m.look g p d = m.look h p d := by
  apply Option.ext
  intro q
  cases m with
  | adjacent =>
    rw [look_adjacent_eq_some_iff, look_adjacent_eq_some_iff, hgh.mem_iff]
  | visible =>
    simp only [look, Layout.firstSeat?_eq_some_iff, Layout.ClearAhead, hgh.mem_iff, hgh.isSeat]

/-- Neighbours depend on the floor only. -/
theorem neighbors_congr (hgh : g.SameFloor h) (m : Mode) (p : Position) :
    m.neighbors g p = m.neighbors h p := by
  rw [neighbors_eq_filterMap, neighbors_eq_filterMap, funext (look_congr hgh m p)]

/-! ### Counting the people near -/

/-- The places near a place, as a set. -/
def near (m : Mode) (g : Layout) (p : Position) : Finset Position := (m.neighbors g p).toFinset

/-- Those near are the neighbours. -/
@[simp] theorem mem_near : q ∈ m.near g p ↔ q ∈ m.neighbors g p := List.mem_toFinset

/-- The count of a mode is the number of taken places near, each counted once. -/
theorem occupied_eq_card (m : Mode) (g : Layout) (p : Position) :
    m.occupied g p = (g.takenPlaces ∩ m.near g p).card := by
  have hset : g.takenPlaces ∩ m.near g p = ((m.neighbors g p).filter g.isTaken).toFinset := by
    ext q
    simp [and_comm]
  have hnodup : ((m.neighbors g p).filter g.isTaken).Nodup := (m.nodup_neighbors g p).filter _
  rw [hset, List.toFinset_card_of_nodup hnodup, occupied, Layout.occupiedAmong,
    List.countP_eq_length_filter]

/-- With exactly the people of `X` seated, a mode counts those of them who are near. -/
theorem occupied_seated {X : Finset Position} (hX : X ⊆ g.seatPlaces) (m : Mode) (p : Position) :
    m.occupied (g.seated X) p = (X ∩ m.near g p).card := by
  have hnear : m.near (g.seated X) p = m.near g p := by
    rw [near, near, neighbors_congr (g.sameFloor_seated X)]
  rw [occupied_eq_card, Layout.takenPlaces_seated hX, hnear]

end Mode

end WaitingRoom
