import Mathlib.Data.Finset.Card
import Mathlib.Data.Finset.SymmDiff
import WaitingRoom.Layout.Tally

/-!
# Seatings of a layout

What a layout shows is decided by its floor, which never changes, and by who sits where.

* **`Layout.surplus`**, **`Layout.outline`**: the stored cells that belong to no place, and these
  with the size. A layout is its outline with what stands and what is tallied at each place
  (`Layout.eq_of_views`).
* **`Layout.cell?_foldl_modify`**: changes made at distinct places, one after another, are read off
  place by place. Seating, announcing and recounting are such changes.
* **`Layout.seatPlaces`**, **`Layout.takenPlaces`**: the places with a seat, and those with somebody
  on it.
* **`Layout.SameFloor`**: having the same size and the same seats.
* **`Layout.seated`**: the same room with a given set of places taken. Tallies and surplus stay, so
  every layout is its own floor with its own people seated (`Layout.seated_takenPlaces`).
-/

namespace WaitingRoom

/-- Of two wishes the later one counts. -/
theorem Spot.occupy_occupy (a b : Bool) (s : Spot) : (s.occupy a).occupy b = s.occupy b := by
  cases s <;> cases a <;> rfl

/-- Seating whoever is there already changes nothing. -/
theorem Spot.occupy_isTaken (s : Spot) : s.occupy s.isTaken = s := by
  cases s <;> rfl

namespace Layout

variable {g h : Layout} {p q : Position}

/-! ### What a layout consists of -/

/-- The stored cells that belong to no place. -/
def surplus (g : Layout) : List Cell := g.cells.toList.drop (g.rows * g.cols)

/-- The surplus begins after the cells of the places. -/
theorem surplus_getElem? (g : Layout) (i : Nat) :
    g.surplus[i]? = g.cells[g.rows * g.cols + i]? := by
  rw [surplus, List.getElem?_drop, Array.getElem?_toList]

/-- The size and the surplus: what no change at a place can reach. -/
def outline (g : Layout) : Nat × Nat × List Cell := (g.rows, g.cols, g.surplus)

/-- Every index below the number of places belongs to one of them. -/
theorem exists_index_eq {i : Nat} (hi : i < g.rows * g.cols) : ∃ p ∈ g, g.index p = i := by
  have hcols : 0 < g.cols := by
    rcases Nat.eq_zero_or_pos g.cols with h0 | hpos
    · rw [h0, Nat.mul_zero] at hi
      exact absurd hi (Nat.not_lt_zero i)
    · exact hpos
  refine ⟨⟨i / g.cols, i % g.cols⟩, ⟨?_, Nat.mod_lt i hcols⟩, ?_⟩
  · exact Nat.div_lt_of_lt_mul (by rwa [Nat.mul_comm] at hi)
  · exact Nat.div_add_mod' i g.cols

/-- A stored cell is the cell of a place, or belongs to the surplus. -/
theorem place_or_surplus {i : Nat} {c : Cell} (hc : g.cells[i]? = some c) :
    (∃ p ∈ g, g.index p = i ∧ g.cell? p = some c) ∨ c ∈ g.surplus := by
  rcases Nat.lt_or_ge i (g.rows * g.cols) with hi | hi
  · obtain ⟨p, hp, rfl⟩ := exists_index_eq hi
    exact .inl ⟨p, hp, rfl, (cell?_of_mem hp).trans hc⟩
  · obtain ⟨j, rfl⟩ := Nat.exists_eq_add_of_le hi
    rw [← surplus_getElem?] at hc
    exact .inr (List.mem_of_getElem? hc)

/-- The cell at a position shows what stands there. -/
theorem spotAt_of_cell? {c : Cell} (hc : g.cell? p = some c) : g.spotAt p = c.spot := by
  rw [spotAt, hc]

/-- The cell at a position has the tally that is read there. -/
theorem tallyAt_of_cell? {c : Cell} (hc : g.cell? p = some c) : g.tallyAt p = c.tally := by
  rw [tallyAt, hc]

/-- Outside the walls there is floor. -/
theorem spotAt_of_not_mem (hp : p ∉ g) : g.spotAt p = .floor := by
  rw [spotAt, cell?_of_not_mem hp]

/-- Outside the walls nothing is tallied. -/
theorem tallyAt_of_not_mem (hp : p ∉ g) : g.tallyAt p = 0 := by
  rw [tallyAt, cell?_of_not_mem hp]

/-- Every place has a cell. -/
theorem exists_cell?_eq (hp : p ∈ g) : ∃ c, g.cell? p = some c :=
  Option.isSome_iff_exists.1 (isSome_cell?.2 hp)

/-- The cell of a place is what stands and what is tallied there. -/
theorem cell?_eq_views (hp : p ∈ g) : g.cell? p = some ⟨g.spotAt p, g.tallyAt p⟩ := by
  obtain ⟨c, hc⟩ := exists_cell?_eq hp
  rw [spotAt_of_cell? hc, tallyAt_of_cell? hc, hc]

/-- Layouts of one size have the same positions inside. -/
theorem mem_congr (hrows : g.rows = h.rows) (hcols : g.cols = h.cols) : p ∈ g ↔ p ∈ h := by
  rw [mem_iff, mem_iff, hrows, hcols]

/-- Layouts of one size store the cell of a place at one index. -/
theorem cell?_eq_getElem?_index (hrows : g.rows = h.rows) (hcols : g.cols = h.cols) (hp : p ∈ g) :
    h.cell? p = h.cells[g.index p]? := by
  rw [cell?_of_mem ((mem_congr hrows hcols).1 hp), index, index, hcols]

/-- Layouts that agree in size and surplus have the same stored cell at an index, unless it is that of a
place where they differ. -/
theorem getElem?_cells_congr (houtline : g.outline = h.outline) {i : Nat}
    (hcell : ∀ p ∈ g, g.index p = i → g.cell? p = h.cell? p) : g.cells[i]? = h.cells[i]? := by
  obtain ⟨hrows, hcols, hsurplus⟩ : g.rows = h.rows ∧ g.cols = h.cols ∧ g.surplus = h.surplus := by
    simpa [outline] using houtline
  rcases Nat.lt_or_ge i (g.rows * g.cols) with hi | hi
  · obtain ⟨p, hp, rfl⟩ := exists_index_eq hi
    rw [← cell?_of_mem hp, hcell p hp rfl, cell?_eq_getElem?_index hrows hcols hp]
  · obtain ⟨j, rfl⟩ := Nat.exists_eq_add_of_le hi
    rw [← surplus_getElem?, hsurplus, surplus_getElem?, hrows, hcols]

/-- So their stored cells differ at the indices of the places where they differ. -/
theorem getElem?_cells_ne_iff (houtline : g.outline = h.outline) {i : Nat} :
    g.cells[i]? ≠ h.cells[i]? ↔ ∃ p ∈ g, g.index p = i ∧ g.cell? p ≠ h.cell? p := by
  obtain ⟨hrows, hcols, -⟩ : g.rows = h.rows ∧ g.cols = h.cols ∧ g.surplus = h.surplus := by
    simpa [outline] using houtline
  constructor
  · intro hne
    by_contra hsame
    apply hne
    apply getElem?_cells_congr houtline
    intro p hp hindex
    by_contra hcell
    exact hsame ⟨p, hp, hindex, hcell⟩
  · rintro ⟨p, hp, rfl, hne⟩
    rwa [cell?_of_mem hp, cell?_eq_getElem?_index hrows hcols hp] at hne

/-- Layouts are equal when they agree in size and surplus and at every place. -/
theorem eq_of_views (houtline : g.outline = h.outline) (hspot : ∀ p, g.spotAt p = h.spotAt p)
    (htally : ∀ p, g.tallyAt p = h.tallyAt p) : g = h := by
  obtain ⟨hrows, hcols, -⟩ : g.rows = h.rows ∧ g.cols = h.cols ∧ g.surplus = h.surplus := by
    simpa [outline] using houtline
  have hcells : g.cells = h.cells := by
    apply Array.ext_getElem?
    intro i
    apply getElem?_cells_congr houtline
    intro p hp _
    rw [cell?_eq_views hp, cell?_eq_views ((mem_congr hrows hcols).1 hp), hspot, htally]
  obtain ⟨rows, cols, cells, covers⟩ := g
  obtain ⟨rows', cols', cells', covers'⟩ := h
  simp only at hrows hcols hcells
  subst hrows hcols hcells
  rfl

/-- A layout is its outline and the cells at its positions. -/
theorem eq_of_cell? (houtline : g.outline = h.outline) (hcell : ∀ p, g.cell? p = h.cell? p) :
    g = h := by
  refine eq_of_views houtline (fun p => ?_) (fun p => ?_)
  · rw [spotAt, hcell, spotAt]
  · rw [tallyAt, hcell, tallyAt]

/-! ### Single changes -/

/-- Changing a place leaves the surplus alone. -/
@[simp] theorem surplus_modify (g : Layout) (p : Position) (f : Cell → Cell) :
    (g.modify p f).surplus = g.surplus := by
  by_cases hp : p ∈ g
  · have hlt : g.index p < g.rows * g.cols := index_lt_mul hp
    simp only [surplus, modify, if_pos hp, Array.toList_modify]
    exact List.drop_modify_of_lt f _ _ _ hlt
  · simp [modify, hp]

/-- Changing a place leaves the outline alone. -/
@[simp] theorem outline_modify (g : Layout) (p : Position) (f : Cell → Cell) :
    (g.modify p f).outline = g.outline := by
  rw [outline, rows_modify, cols_modify, surplus_modify, outline]

/-- A change of all stored cells reaches the surplus. -/
@[simp] theorem surplus_mapCells (g : Layout) (f : Cell → Cell) :
    (g.mapCells f).surplus = g.surplus.map f := by
  simp [surplus, mapCells]

/-- A change that keeps what stands at its place is not seen. -/
theorem spotAt_modify_of_spot {f : Cell → Cell} (hf : ∀ c, (f c).spot = c.spot) (g : Layout)
    (p q : Position) : (g.modify p f).spotAt q = g.spotAt q := by
  unfold spotAt
  rw [cell?_modify]
  by_cases hq : q = p
  · subst hq
    cases g.cell? q <;> simp [hf]
  · rw [if_neg hq]

/-- A change that keeps the tally of its place is not read in the tallies. -/
theorem tallyAt_modify_of_tally {f : Cell → Cell} (hf : ∀ c, (f c).tally = c.tally) (g : Layout)
    (p q : Position) : (g.modify p f).tallyAt q = g.tallyAt q := by
  unfold tallyAt
  rw [cell?_modify]
  by_cases hq : q = p
  · subst hq
    cases g.cell? q <;> simp [hf]
  · rw [if_neg hq]

/-- Sitting down and leaving is seen at its own position only. -/
theorem spotAt_occupy (g : Layout) (p q : Position) (b : Bool) :
    (g.occupy p b).spotAt q = if q = p then (g.spotAt q).occupy b else g.spotAt q := by
  unfold spotAt occupy
  rw [cell?_modify]
  by_cases hq : q = p
  · subst hq
    cases g.cell? q <;> simp
  · rw [if_neg hq, if_neg hq]

/-- Sitting down and leaving is not read in the tallies. -/
theorem tallyAt_occupy (g : Layout) (p q : Position) (b : Bool) :
    (g.occupy p b).tallyAt q = g.tallyAt q :=
  tallyAt_modify_of_tally (fun c => Cell.tally_occupy b c) g p q

/-- A credit arrives at its own place, inside the walls. -/
theorem tallyAt_modify_credit (g : Layout) (p q : Position) (n : Int) :
    (g.modify p (Cell.credit n)).tallyAt q = g.tallyAt q + if q = p ∧ q ∈ g then n else 0 := by
  unfold tallyAt
  rw [cell?_modify]
  by_cases hq : q = p
  · subst hq
    by_cases hmem : q ∈ g
    · obtain ⟨c, hc⟩ := exists_cell?_eq hmem
      simp [hc, hmem]
    · simp [cell?_of_not_mem hmem, hmem]
  · simp [hq]

/-- A credit for seats arrives at its own place, if there is a seat. -/
theorem tallyAt_modify_creditSeat (g : Layout) (p q : Position) (n : Int) :
    (g.modify p (Cell.creditSeat n)).tallyAt q =
      g.tallyAt q + if q = p ∧ g.isSeat q = true then n else 0 := by
  unfold isSeat spotAt tallyAt
  rw [cell?_modify]
  by_cases hq : q = p
  · subst hq
    cases g.cell? q with
    | none => simp [Spot.isSeat]
    | some c => cases hs : c.spot.isSeat <;> simp [Cell.tally_creditSeat, hs]
  · simp [hq]

/-! ### Changes at distinct places -/

section foldl

variable (f : Position → Cell → Cell)

/-- Changing many places leaves the outline alone. -/
theorem outline_foldl_modify (ps : List Position) (g : Layout) :
    (ps.foldl (fun h p => h.modify p (f p)) g).outline = g.outline := by
  induction ps generalizing g with
  | nil => rfl
  | cons p ps ih => rw [List.foldl_cons, ih, outline_modify]

/-- Each place of the list is changed once, and no other place is. -/
theorem cell?_foldl_modify {ps : List Position} (hps : ps.Nodup) (g : Layout) (q : Position) :
    (ps.foldl (fun h p => h.modify p (f p)) g).cell? q =
      if q ∈ ps then (g.cell? q).map (f q) else g.cell? q := by
  induction ps generalizing g with
  | nil => simp
  | cons p ps ih =>
    obtain ⟨hp, hps⟩ := List.nodup_cons.1 hps
    rw [List.foldl_cons, ih hps, cell?_modify]
    by_cases hq : q = p
    · subst hq
      simp [hp]
    · simp [hq]

/-- Changes that keep what stands at their places are not seen, repeated or not. -/
theorem spotAt_foldl_modify_of_spot (hf : ∀ p c, (f p c).spot = c.spot) (ps : List Position)
    (g : Layout) (q : Position) :
    (ps.foldl (fun h p => h.modify p (f p)) g).spotAt q = g.spotAt q := by
  induction ps generalizing g with
  | nil => rfl
  | cons p ps ih => rw [List.foldl_cons, ih, spotAt_modify_of_spot (hf p)]

end foldl

/-! ### Places and who sits there -/

/-- The list of all places names none twice. -/
theorem nodup_positions (g : Layout) : g.positions.Nodup := by
  rw [positions, List.nodup_flatMap]
  refine ⟨fun row _ => ?_, ?_⟩
  · exact List.nodup_range.map fun col col' h => congrArg Position.col h
  · refine List.nodup_range.imp fun {row row'} hne => ?_
    intro p hp hp'
    obtain ⟨col, -, rfl⟩ := List.mem_map.1 hp
    obtain ⟨col', -, heq⟩ := List.mem_map.1 hp'
    exact hne (congrArg Position.row heq).symm

/-- All places. -/
def places (g : Layout) : Finset Position := g.positions.toFinset

/-- The places with a seat. -/
def seatPlaces (g : Layout) : Finset Position := {p ∈ g.places | g.isSeat p = true}

/-- The places with somebody on their seat. -/
def takenPlaces (g : Layout) : Finset Position := {p ∈ g.places | g.isTaken p = true}

/-- The places are the positions inside the walls. -/
@[simp] theorem mem_places : p ∈ g.places ↔ p ∈ g := by
  simp [places]

/-- The seat places are the positions with a seat. -/
@[simp] theorem mem_seatPlaces : p ∈ g.seatPlaces ↔ g.isSeat p = true := by
  rw [seatPlaces, Finset.mem_filter, mem_places, and_iff_right_iff_imp]
  exact mem_of_isSeat

/-- The taken places are the positions where somebody sits. -/
@[simp] theorem mem_takenPlaces : p ∈ g.takenPlaces ↔ g.isTaken p = true := by
  rw [takenPlaces, Finset.mem_filter, mem_places, and_iff_right_iff_imp]
  exact fun hp => mem_of_isSeat (isSeat_of_isTaken hp)

/-- People sit on seats. -/
theorem takenPlaces_subset (g : Layout) : g.takenPlaces ⊆ g.seatPlaces := by
  intro p hp
  rw [mem_takenPlaces] at hp
  exact mem_seatPlaces.2 (isSeat_of_isTaken hp)

/-- In reading order the places are stored one after another. -/
theorem map_index_positions (g : Layout) : g.positions.map g.index = List.range (g.rows * g.cols) := by
  have hrows : ∀ n, ((List.range n).flatMap fun row => (List.range g.cols).map fun col =>
      row * g.cols + col) = List.range (n * g.cols) := by
    intro n
    induction n with
    | zero => simp
    | succ n ih =>
      rw [List.range_succ, List.flatMap_append, ih, List.flatMap_singleton, Nat.succ_mul,
        List.range_add]
  rw [positions, List.map_flatMap, ← hrows g.rows]
  simp only [List.map_map]
  rfl

/-- There are as many places as rows times columns. -/
theorem length_positions (g : Layout) : g.positions.length = g.rows * g.cols := by
  rw [← List.length_map g.index, map_index_positions, List.length_range]

/-- A place is found in reading order where its cell is stored. -/
theorem getElem?_positions (hp : p ∈ g) : g.positions[g.index p]? = some p := by
  have hindex := congrArg (·[g.index p]?) g.map_index_positions
  simp only [List.getElem?_map, List.getElem?_range (index_lt_mul hp)] at hindex
  obtain ⟨q, hq, heq⟩ := Option.map_eq_some_iff.1 hindex
  rw [hq, index_inj (mem_positions.1 (List.mem_of_getElem? hq)) hp heq]

/-- Counting places by their cells is counting the cells stored before the surplus. -/
theorem countP_positions (g : Layout) (f : Cell → Bool) :
    (g.positions.countP fun p => (g.cell? p).any f) =
      (g.cells.toList.take (g.rows * g.cols)).countP f := by
  have hcells : g.positions.map g.cell? = (g.cells.toList.take (g.rows * g.cols)).map some := by
    have hread : g.positions.map g.cell? = (g.positions.map g.index).map (g.cells[·]?) := by
      rw [List.map_map]
      exact List.map_congr_left fun p hp => cell?_of_mem (mem_positions.1 hp)
    rw [hread, map_index_positions]
    apply List.ext_getElem?
    intro i
    by_cases hi : i < g.rows * g.cols
    · have hsize : i < g.cells.size := Nat.lt_of_lt_of_le hi g.covers
      simp [hi, hsize]
    · simp [hi]
  rw [← Function.comp_def (fun c => Option.any f c) g.cell?, ← List.countP_map, hcells,
    List.countP_map]
  rfl

/-- The stored cells of a kind are those of places and those of the surplus. -/
theorem card_places_add_surplus (g : Layout) (f : Cell → Bool) :
    {p ∈ g.places | (g.cell? p).any f = true}.card + g.surplus.countP f = g.cells.countP f := by
  have hset : {p ∈ g.places | (g.cell? p).any f = true} =
      (g.positions.filter fun p => (g.cell? p).any f).toFinset := by
    ext p
    simp [places]
  rw [hset, List.toFinset_card_of_nodup (g.nodup_positions.filter _), ← List.countP_eq_length_filter,
    countP_positions, surplus, ← List.countP_append, List.take_append_drop, Array.countP_toList]

/-- What is asked of the cell of a place can be asked of the place, if floor answers no. -/
theorem any_cell? {f : Spot → Bool} (hf : f .floor = false) (g : Layout) (p : Position) :
    ((g.cell? p).any fun c => f c.spot) = f (g.spotAt p) := by
  unfold spotAt
  cases g.cell? p with
  | none => exact hf.symm
  | some c => rfl

/-- There are no more places with a seat than stored seats. -/
theorem card_seatPlaces_le_seats (g : Layout) : g.seatPlaces.card ≤ g.seats := by
  have hcells := g.card_places_add_surplus fun c => c.spot.isSeat
  simp only [any_cell? (f := Spot.isSeat) rfl] at hcells
  exact (Nat.le_add_right _ _).trans hcells.le

/-- The people are those at places, and whoever sits on surplus seats. -/
theorem occupied_eq (g : Layout) :
    g.occupied = g.takenPlaces.card + g.surplus.countP fun c => c.spot.isTaken := by
  have hcells := g.card_places_add_surplus fun c => c.spot.isTaken
  simp only [any_cell? (f := Spot.isTaken) rfl] at hcells
  exact hcells.symm

/-! ### Layouts of one floor -/

/-- Two layouts have the same floor when they have the same size and seats at the same places.
Nobody moves a seat, so all generations of a room have the same floor. -/
structure SameFloor (g h : Layout) : Prop where
  /-- The same number of rows. -/
  rows : g.rows = h.rows
  /-- The same number of places in each row. -/
  cols : g.cols = h.cols
  /-- A seat where the other has one. -/
  isSeat : ∀ p, g.isSeat p = h.isSeat p

namespace SameFloor

/-- A layout has its own floor. -/
theorem refl (g : Layout) : SameFloor g g := ⟨rfl, rfl, fun _ => rfl⟩

/-- Having the same floor goes both ways. -/
theorem symm (hgh : SameFloor g h) : SameFloor h g :=
  ⟨hgh.rows.symm, hgh.cols.symm, fun p => (hgh.isSeat p).symm⟩

/-- Having the same floor carries over. -/
theorem trans {k : Layout} (hgh : SameFloor g h) (hhk : SameFloor h k) : SameFloor g k :=
  ⟨hgh.rows.trans hhk.rows, hgh.cols.trans hhk.cols, fun p => (hgh.isSeat p).trans (hhk.isSeat p)⟩

/-- On the same floor the same positions are inside. -/
theorem mem_iff (hgh : SameFloor g h) : p ∈ g ↔ p ∈ h := by
  rw [Layout.mem_iff, Layout.mem_iff, hgh.rows, hgh.cols]

/-- On the same floor the places are listed in the same order. -/
theorem positions (hgh : SameFloor g h) : g.positions = h.positions := by
  rw [Layout.positions, Layout.positions, hgh.rows, hgh.cols]

/-- People sit on seats that both layouts have. -/
theorem takenPlaces_subset (hgh : SameFloor g h) : g.takenPlaces ⊆ h.seatPlaces := by
  intro p hp
  rw [mem_seatPlaces, ← hgh.isSeat]
  exact mem_seatPlaces.1 (g.takenPlaces_subset hp)

end SameFloor

/-! ### Showing the same -/

/-- The comparison looks at the stored cells that both layouts have. -/
theorem sameSpots_iff_getElem? : g.SameSpots h ↔ g.rows = h.rows ∧ g.cols = h.cols ∧
    ∀ (i : Nat) (c d : Cell), g.cells[i]? = some c → h.cells[i]? = some d → c.spot = d.spot := by
  refine and_congr_right fun _ => and_congr_right fun _ => ?_
  rw [Array.all_eq_true']
  simp only [decide_eq_true_iff, Prod.forall]
  constructor
  · intro hall i c d hc hd
    refine hall c d (Array.mem_of_getElem? (i := i) ?_)
    rw [Array.getElem?_zip_eq_some]
    exact ⟨hc, hd⟩
  · intro hall c d hmem
    obtain ⟨i, hi⟩ := Array.getElem?_of_mem hmem
    rw [Array.getElem?_zip_eq_some] at hi
    exact hall i c d hi.1 hi.2

/-- On one floor the same people are seated when every place agrees. -/
theorem takenPlaces_eq_iff (hfloor : SameFloor g h) :
    g.takenPlaces = h.takenPlaces ↔ ∀ p ∈ g, g.isTaken p = h.isTaken p := by
  rw [Finset.ext_iff]
  refine forall_congr' fun p => ?_
  rw [mem_takenPlaces, mem_takenPlaces, ← Bool.eq_iff_iff]
  refine ⟨fun heq _ => heq, fun heq => ?_⟩
  by_cases hp : p ∈ g
  · exact heq hp
  · rw [isTaken, isTaken, spotAt_of_not_mem hp, spotAt_of_not_mem (hfloor.mem_iff.not.1 hp)]

/-- On one floor the places that differ are those taken in one layout only. -/
theorem countP_isTaken_ne (hfloor : SameFloor g h) :
    (g.positions.countP fun p => g.isTaken p ≠ h.isTaken p) =
      (symmDiff g.takenPlaces h.takenPlaces).card := by
  have hset : symmDiff g.takenPlaces h.takenPlaces =
      (g.positions.filter fun p => g.isTaken p ≠ h.isTaken p).toFinset := by
    ext p
    rw [Finset.mem_symmDiff, mem_takenPlaces, mem_takenPlaces, List.mem_toFinset, List.mem_filter,
      mem_positions, decide_eq_true_iff]
    by_cases hp : p ∈ g
    · cases g.isTaken p <;> cases h.isTaken p <;> simp [hp]
    · have hp' : p ∉ h := hfloor.mem_iff.not.1 hp
      simp [hp, isTaken, spotAt_of_not_mem hp, spotAt_of_not_mem hp', Spot.isTaken]
  rw [hset, List.toFinset_card_of_nodup (g.nodup_positions.filter _), List.countP_eq_length_filter]

/-- No place differs when the same places are taken. -/
theorem countP_isTaken_ne_eq_zero_iff (hfloor : SameFloor g h) :
    (g.positions.countP fun p => g.isTaken p ≠ h.isTaken p) = 0 ↔
      g.takenPlaces = h.takenPlaces := by
  rw [countP_isTaken_ne hfloor, Finset.card_eq_zero, Finset.symmDiff_eq_empty]

/-- Layouts of one floor whose surplus shows the same show the same when the same places are taken. -/
theorem sameSpots_iff_takenPlaces (hfloor : SameFloor g h)
    (hsurplus : g.surplus.map Cell.spot = h.surplus.map Cell.spot) :
    g.SameSpots h ↔ g.takenPlaces = h.takenPlaces := by
  have hindex : ∀ p, g.index p = h.index p := fun p => by rw [index, index, hfloor.cols]
  rw [sameSpots_iff_getElem?, takenPlaces_eq_iff hfloor]
  constructor
  · rintro ⟨-, -, hall⟩ p hp
    obtain ⟨c, hc⟩ := exists_cell?_eq hp
    obtain ⟨d, hd⟩ := exists_cell?_eq (hfloor.mem_iff.1 hp)
    rw [isTaken, isTaken, spotAt_of_cell? hc, spotAt_of_cell? hd]
    rw [cell?_of_mem hp] at hc
    rw [cell?_of_mem (hfloor.mem_iff.1 hp), ← hindex] at hd
    rw [hall _ c d hc hd]
  · intro htaken
    refine ⟨hfloor.rows, hfloor.cols, fun i c d hc hd => ?_⟩
    rcases Nat.lt_or_ge i (g.rows * g.cols) with hi | hi
    · obtain ⟨p, hp, rfl⟩ := exists_index_eq hi
      rw [← cell?_of_mem hp] at hc
      rw [hindex, ← cell?_of_mem (hfloor.mem_iff.1 hp)] at hd
      rw [← spotAt_of_cell? hc, ← spotAt_of_cell? hd]
      exact Spot.eq_of_flags (hfloor.isSeat p) (htaken p hp)
    · obtain ⟨j, rfl⟩ := Nat.exists_eq_add_of_le hi
      have hj := congrArg (·[j]?) hsurplus
      simp only [List.getElem?_map, surplus_getElem?] at hj
      rw [← hfloor.rows, ← hfloor.cols, hc, hd] at hj
      exact Option.some.inj hj

/-! ### Seating people -/

/-- The room with the given places taken and all other seats free. Floor stays floor. -/
def seated (g : Layout) (taken : Finset Position) : Layout :=
  g.positions.foldl (fun h p => h.occupy p (p ∈ taken)) g

variable (g) (X Y : Finset Position)

/-- Seating people leaves the outline alone. -/
@[simp] theorem outline_seated : (g.seated X).outline = g.outline :=
  outline_foldl_modify _ _ g

/-- Seating people adds no row. -/
@[simp] theorem rows_seated : (g.seated X).rows = g.rows :=
  congrArg Prod.fst (outline_seated g X)

/-- Seating people adds no column. -/
@[simp] theorem cols_seated : (g.seated X).cols = g.cols :=
  congrArg (fun o => o.2.1) (outline_seated g X)

/-- Nobody is seated in the surplus. -/
@[simp] theorem surplus_seated : (g.seated X).surplus = g.surplus :=
  congrArg (fun o => o.2.2) (outline_seated g X)

/-- Each place is told whether somebody is to sit there. -/
theorem cell?_seated (p : Position) :
    (g.seated X).cell? p = (g.cell? p).map (Cell.occupy (p ∈ X)) := by
  refine (cell?_foldl_modify _ g.nodup_positions g p).trans ?_
  by_cases hp : p ∈ g
  · rw [if_pos (mem_positions.2 hp)]
  · rw [if_neg (fun h => hp (mem_positions.1 h)), cell?_of_not_mem hp, Option.map_none]

/-- Each position shows whether somebody was seated there. -/
@[simp] theorem spotAt_seated (p : Position) :
    (g.seated X).spotAt p = (g.spotAt p).occupy (p ∈ X) := by
  unfold spotAt
  rw [cell?_seated]
  cases g.cell? p <;> rfl

/-- Seating people changes no tally. -/
@[simp] theorem tallyAt_seated (p : Position) : (g.seated X).tallyAt p = g.tallyAt p := by
  unfold tallyAt
  rw [cell?_seated]
  cases g.cell? p <;> rfl

/-- Seating people moves no seat. -/
@[simp] theorem isSeat_seated (p : Position) : (g.seated X).isSeat p = g.isSeat p := by
  simp [isSeat]

/-- Seating people leaves the floor as it is. -/
theorem sameFloor_seated : SameFloor (g.seated X) g :=
  ⟨rows_seated g X, cols_seated g X, isSeat_seated g X⟩

/-- Somebody sits where a seat is and somebody was seated. -/
theorem isTaken_seated (p : Position) :
    (g.seated X).isTaken p = (g.isSeat p && decide (p ∈ X)) := by
  simp [isTaken, isSeat]

/-- The seat places stay the same. -/
@[simp] theorem seatPlaces_seated : (g.seated X).seatPlaces = g.seatPlaces := by
  ext p
  simp

variable {g X} in
/-- Exactly the people who have a seat to sit on are seen. -/
theorem takenPlaces_seated (hX : X ⊆ g.seatPlaces) : (g.seated X).takenPlaces = X := by
  ext p
  rw [mem_takenPlaces, isTaken_seated, Bool.and_eq_true, decide_eq_true_iff]
  exact ⟨fun h => h.2, fun h => ⟨mem_seatPlaces.1 (hX h), h⟩⟩

/-- Only the last seating is seen. -/
theorem seated_seated : (g.seated X).seated Y = g.seated Y := by
  refine eq_of_views (by simp) (fun p => ?_) (fun p => by simp)
  rw [spotAt_seated, spotAt_seated, spotAt_seated, Spot.occupy_occupy]

/-- Every layout is its own floor with its own people seated. -/
theorem seated_takenPlaces : g.seated g.takenPlaces = g := by
  refine eq_of_views (by simp) (fun p => ?_) (fun p => by simp)
  have htaken : decide (p ∈ g.takenPlaces) = (g.spotAt p).isTaken := by
    rw [Bool.eq_iff_iff, decide_eq_true_iff, mem_takenPlaces, isTaken]
  rw [spotAt_seated, htaken, Spot.occupy_isTaken]

end Layout

end WaitingRoom
