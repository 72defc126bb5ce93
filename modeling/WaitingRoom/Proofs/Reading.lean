import WaitingRoom.Proofs.Plans

/-!
# Reading a plan

Which rows can be read, and what the layout is that they give.

* **`Readable`**: rows of one length, made of the marks for a free seat and for floor.
* **`markAt`**: the mark at a position of some rows.
* **`Layout.Holds`**: the layout has the cells of the given rows, row after row. It shows what their
  marks stand for, has no tallies and no surplus (`Layout.Holds.cell?_eq`,
  `Layout.Holds.surplus_eq`).
* **`Layout.exists_ofRows`**, **`Layout.holds_of_ofRows`**: the strict reader accepts readable rows, and
  what it gives is a layout that holds them.
-/

namespace WaitingRoom

/-! ### Marks -/

/-- Two marks can be read. -/
theorem isSome_ofMark?_iff {c : Char} : (Spot.ofMark? c).isSome = true ↔ c = 'L' ∨ c = '.' := by
  unfold Spot.ofMark?
  by_cases hL : c = 'L'
  · simp [hL]
  · by_cases hdot : c = '.' <;> simp [hL, hdot]

/-- A row has no bad mark when all of its marks can be read. -/
theorem badMark?_eq_none_iff {row : List Char} :
    badMark? row = none ↔ ∀ c ∈ row, c = 'L' ∨ c = '.' := by
  rw [badMark?, List.find?_eq_none]
  refine forall_congr' fun c => forall_congr' fun _ => ?_
  rw [← isSome_ofMark?_iff, Option.isNone_iff_eq_none, Option.isSome_iff_ne_none]

/-- The cells of a row without a bad mark are what its marks stand for. -/
theorem getElem?_readableCells {row : List Char} (hrow : badMark? row = none) (j : Nat) :
    (readableCells row)[j]? =
      row[j]?.bind fun c => (Spot.ofMark? c).map fun spot => { spot } := by
  induction row generalizing j with
  | nil => rfl
  | cons c rest ih =>
    rw [badMark?_eq_none_iff, List.forall_mem_cons] at hrow
    obtain ⟨hc, hrest⟩ := hrow
    obtain ⟨spot, hspot⟩ := Option.isSome_iff_exists.1 (isSome_ofMark?_iff.2 hc)
    rw [readableCells, hspot]
    cases j with
    | zero => simp [hspot]
    | succ j => simpa using ih (badMark?_eq_none_iff.2 hrest) j

/-- Rows that can be read as a plan with `cols` places in each row: all have that length, and no
other marks than those of a free seat and of floor. -/
structure Readable (rows : List (List Char)) (cols : Nat) : Prop where
  /-- All rows have the length. -/
  length : ∀ row ∈ rows, row.length = cols
  /-- There is no other mark. -/
  mark : ∀ row ∈ rows, ∀ c ∈ row, c = 'L' ∨ c = '.'

/-- The mark at a position, if there is one. -/
def markAt (rows : List (List Char)) (p : Position) : Option Char :=
  rows[p.row]?.bind fun row => row[p.col]?

namespace Readable

variable {rows done : List (List Char)} {row : List Char} {cols : Nat}

/-- Rows are readable when those before and those after any place are. -/
theorem append_iff :
    Readable (done ++ rows) cols ↔ Readable done cols ∧ Readable rows cols := by
  constructor
  · rintro ⟨hlength, hmark⟩
    exact ⟨⟨fun row hrow => hlength row (List.mem_append_left _ hrow),
        fun row hrow => hmark row (List.mem_append_left _ hrow)⟩,
      ⟨fun row hrow => hlength row (List.mem_append_right _ hrow),
        fun row hrow => hmark row (List.mem_append_right _ hrow)⟩⟩
  · rintro ⟨hdone, hrows⟩
    exact ⟨fun row hrow => (List.mem_append.1 hrow).elim (hdone.length row) (hrows.length row),
      fun row hrow => (List.mem_append.1 hrow).elim (hdone.mark row) (hrows.mark row)⟩

/-- One row is readable when it has the width and the two marks only. -/
theorem singleton_iff :
    Readable [row] cols ↔ row.length = cols ∧ ∀ c ∈ row, c = 'L' ∨ c = '.' := by
  constructor
  · rintro ⟨hlength, hmark⟩
    exact ⟨hlength row (List.mem_singleton_self row), hmark row (List.mem_singleton_self row)⟩
  · rintro ⟨hlength, hmark⟩
    refine ⟨fun other hother => ?_, fun other hother => ?_⟩
    · rwa [List.mem_singleton.1 hother]
    · rwa [List.mem_singleton.1 hother]

/-- A row among readable ones has no bad mark. -/
theorem badMark? (h : Readable rows cols) (hrow : row ∈ rows) : badMark? row = none :=
  badMark?_eq_none_iff.2 (h.mark row hrow)

/-- The first row tells the length of all. -/
theorem length_headD (h : Readable rows cols) (hne : rows ≠ []) :
    (rows.headD []).length = cols := by
  rcases rows with _ | ⟨row, rest⟩
  · exact absurd rfl hne
  · exact h.length row List.mem_cons_self

/-- A row among readable ones has as many cells as there are columns. -/
theorem length_readableCells (h : Readable rows cols) (hrow : row ∈ rows) :
    (readableCells row).length = cols := by
  rw [WaitingRoom.length_readableCells (h.badMark? hrow), h.length row hrow]

/-- A position has a mark when it lies within the rows. -/
theorem isSome_markAt (h : Readable rows cols) (p : Position) :
    (markAt rows p).isSome = true ↔ p.row < rows.length ∧ p.col < cols := by
  unfold markAt
  by_cases hp : p.row < rows.length
  · have hlength := h.length rows[p.row] (List.getElem_mem hp)
    simp [hp, hlength]
  · simp [hp]

/-- Any mark among readable rows is one of the two. -/
theorem mark_of_markAt (h : Readable rows cols) {p : Position} {c : Char}
    (hc : markAt rows p = some c) : c = 'L' ∨ c = '.' := by
  obtain ⟨row, hrow, hmark⟩ := Option.bind_eq_some_iff.1 hc
  exact h.mark row (List.mem_of_getElem? hrow) c (List.mem_of_getElem? hmark)

/-- Readable rows have as many cells as rows times columns. -/
theorem length_flatMap_readableCells (h : Readable rows cols) :
    (rows.flatMap readableCells).length = rows.length * cols := by
  induction rows with
  | nil => simp
  | cons row rows ih =>
    obtain ⟨hrow, hrows⟩ := append_iff.1 (show Readable ([row] ++ rows) cols from h)
    rw [List.flatMap_cons, List.length_append, ih hrows,
      hrow.length_readableCells (List.mem_singleton_self row), List.length_cons, Nat.add_mul]
    omega

/-- Put one after another, the cells of rows are found by row and column. -/
theorem getElem?_flatMap_readableCells (h : Readable rows cols) {i j : Nat} (hj : j < cols) :
    (rows.flatMap readableCells)[i * cols + j]? =
      rows[i]?.bind fun row => (readableCells row)[j]? := by
  induction rows generalizing i with
  | nil => simp
  | cons row rows ih =>
    obtain ⟨hrow, hrows⟩ := append_iff.1 (show Readable ([row] ++ rows) cols from h)
    have hlength := hrow.length_readableCells (List.mem_singleton_self row)
    rw [List.flatMap_cons]
    cases i with
    | zero =>
      rw [Nat.zero_mul, Nat.zero_add, List.getElem?_append_left (by rwa [hlength])]
      rfl
    | succ i =>
      have hle : (readableCells row).length ≤ (i + 1) * cols + j := by
        rw [hlength, Nat.add_mul, Nat.one_mul]
        omega
      have hrest : (i + 1) * cols + j - cols = i * cols + j := by
        rw [Nat.add_mul, Nat.one_mul]
        omega
      rw [List.getElem?_append_right hle, hlength, hrest, ih hrows]
      rfl

end Readable

/-! ### Layouts that hold rows -/

namespace Layout

variable {g h : Layout} {rows done : List (List Char)} {row : List Char} {p : Position}

/-- The layout has the cells of readable rows, row after row. -/
structure Holds (g : Layout) (plan : List (List Char)) : Prop where
  /-- As many rows. -/
  rows : g.rows = plan.length
  /-- The rows can be read, and are as long as those of the layout. -/
  readable : Readable plan g.cols
  /-- Their cells one after another. -/
  cells : g.cells.toList = plan.flatMap readableCells

namespace Holds

/-- The positions inside are those that have a mark. -/
theorem mem_iff (hg : g.Holds rows) : p ∈ g ↔ (markAt rows p).isSome = true := by
  rw [hg.readable.isSome_markAt, ← hg.rows]
  rfl

/-- The cell of a place is what its mark stands for, with nothing tallied. -/
theorem cell?_eq (hg : g.Holds rows) (p : Position) :
    g.cell? p = (markAt rows p).bind fun c => (Spot.ofMark? c).map fun spot => { spot } := by
  by_cases hp : p ∈ g
  · rw [cell?_of_mem hp, ← Array.getElem?_toList, hg.cells, index,
      hg.readable.getElem?_flatMap_readableCells hp.2, markAt, Option.bind_assoc]
    cases hrow : rows[p.row]? with
    | none => rfl
    | some row =>
      exact getElem?_readableCells (hg.readable.badMark? (List.mem_of_getElem? hrow)) p.col
  · rw [cell?_of_not_mem hp]
    rw [hg.mem_iff, Option.isSome_iff_ne_none, not_not] at hp
    rw [hp, Option.bind_none]

/-- What stands at a position is what its mark stands for. -/
theorem spotAt_eq (hg : g.Holds rows) (p : Position) :
    g.spotAt p = ((markAt rows p).bind Spot.ofMark?).getD .floor := by
  unfold spotAt
  rw [hg.cell?_eq]
  cases markAt rows p with
  | none => rfl
  | some c => cases hc : Spot.ofMark? c <;> simp [hc]

/-- Seats are where the mark of a seat is. -/
theorem isSeat_iff (hg : g.Holds rows) : g.isSeat p = true ↔ markAt rows p = some 'L' := by
  rw [isSeat, hg.spotAt_eq]
  cases hmark : markAt rows p with
  | none => simp [Spot.isSeat]
  | some c =>
    rcases hg.readable.mark_of_markAt hmark with rfl | rfl
    · exact iff_of_true rfl rfl
    · exact iff_of_false (by decide) (by decide)

/-- No cell is left over. -/
theorem surplus_eq (hg : g.Holds rows) : g.surplus = [] := by
  rw [surplus, hg.cells, List.drop_eq_nil_iff, hg.readable.length_flatMap_readableCells, hg.rows]

/-- Any of the rows is as long as the layout is wide. -/
theorem cols_eq (hg : g.Holds rows) (hrow : row ∈ rows) : g.cols = row.length :=
  (hg.readable.length row hrow).symm

end Holds

/-! ### Taking rows -/

/-- A row has no fault when it is readable at the width of the layout. -/
theorem rowFault?_eq_none_iff : g.rowFault? row = none ↔ Readable [row] g.cols := by
  rw [Readable.singleton_iff, ← badMark?_eq_none_iff, rowFault?]
  split
  · next hlength => simp [hlength]
  · next hlength => simp [hlength]

/-- An accepted row is held after the rows before it. -/
theorem Holds.pushRow (hg : g.Holds done) (hrow : Readable [row] g.cols) :
    (g.pushRow row).Holds (done ++ [row]) ∧ (g.pushRow row).cols = g.cols := by
  have hfault := rowFault?_eq_none_iff.2 hrow
  unfold Layout.pushRow
  split
  · refine ⟨⟨?_, Readable.append_iff.2 ⟨hg.readable, hrow⟩, ?_⟩, rfl⟩
    · rw [List.length_append, ← hg.rows]
      rfl
    · rw [List.flatMap_append, List.flatMap_singleton, ← hg.cells]
      simp
  · next hmark => rw [hfault] at hmark; cases hmark
  · next hlength => rw [hfault] at hlength; cases hlength

/-- An empty layout of any width holds no rows. -/
theorem holds_ofWidth (cols : Nat) : (ofWidth cols).Holds [] :=
  ⟨rfl, ⟨by simp, by simp⟩, rfl⟩

end Layout

namespace Builder

variable {b b' : Builder} {rows done : List (List Char)} {row : List Char}

/-- The builder has taken just the given rows. -/
def Holds (b : Builder) (done : List (List Char)) : Prop :=
  match b.soFar with
  | none => done = []
  | some g => done ≠ [] ∧ g.Holds done

/-- A new builder holds no rows. -/
theorem holds_empty : ({} : Builder).Holds [] := rfl

/-- The layout to which a row is offered holds the rows before it, and has the width of the row if
there are none. -/
theorem Holds.forRow (hb : b.Holds done) (row : List Char) :
    (b.forRow row).Holds done ∧ (done = [] → (b.forRow row).cols = row.length) := by
  unfold Builder.forRow
  unfold Holds at hb
  cases hg : b.soFar with
  | none =>
    rw [hg] at hb
    simp only at hb
    subst hb
    exact ⟨Layout.holds_ofWidth _, fun _ => rfl⟩
  | some g =>
    rw [hg] at hb
    exact ⟨hb.2, fun hdone => absurd hdone hb.1⟩

/-- A row without fault is held after the rows before it. -/
theorem Holds.push (hb : b.Holds done) (hrow : b.fault? row = none) :
    (b.push row).Holds (done ++ [row]) := by
  refine ⟨by simp, ?_⟩
  exact ((hb.forRow row).1.pushRow (Layout.rowFault?_eq_none_iff.1 hrow)).1

/-- A row is accepted when it can be read together with the rows before it. -/
theorem Holds.fault?_eq_none_iff (hb : b.Holds done) :
    b.fault? row = none ↔ ∃ cols, Readable (done ++ [row]) cols := by
  obtain ⟨hforRow, hfirst⟩ := hb.forRow row
  rw [fault?, Layout.rowFault?_eq_none_iff]
  constructor
  · intro hrow
    exact ⟨_, Readable.append_iff.2 ⟨hforRow.readable, hrow⟩⟩
  · rintro ⟨cols, hreadable⟩
    obtain ⟨hdone, hrow⟩ := Readable.append_iff.1 hreadable
    -- the width is that of the rows before, or else that of the row itself
    have hcols : (b.forRow row).cols = cols := by
      cases hcases : done with
      | nil => rw [hfirst hcases, hrow.length row (List.mem_singleton_self row)]
      | cons first rest =>
        have hmem : first ∈ done := by
          rw [hcases]
          exact List.mem_cons_self
        rw [hforRow.cols_eq hmem, hdone.length first hmem]
    rwa [hcols]

/-- The strict reader takes a row without fault. -/
theorem extend_of_fault?_eq_none (h : b.fault? row = none) : b.extend row = .ok (b.push row) := by
  rw [extend, h]

/-- Rows taken one after another are held. -/
theorem Holds.foldlM_extend (hb : b.Holds done) (h : rows.foldlM extend b = .ok b') :
    b'.Holds (done ++ rows) := by
  induction rows generalizing b done with
  | nil =>
    cases h
    rwa [List.append_nil]
  | cons row rows ih =>
    rw [List.foldlM_cons] at h
    cases hfault : b.fault? row with
    | none =>
      rw [extend_of_fault?_eq_none hfault] at h
      rw [List.append_cons]
      exact ih (hb.push hfault) h
    | some e =>
      rw [extend, hfault] at h
      cases h

/-- Rows are taken one after another when all of them can be read together. -/
theorem Holds.exists_foldlM_extend (hb : b.Holds done) {cols : Nat}
    (h : Readable (done ++ rows) cols) : ∃ b', rows.foldlM extend b = .ok b' := by
  induction rows generalizing b done with
  | nil => exact ⟨b, rfl⟩
  | cons row rows ih =>
    rw [List.append_cons] at h
    have hfault := hb.fault?_eq_none_iff.2 ⟨cols, (Readable.append_iff.1 h).1⟩
    obtain ⟨b', hb'⟩ := ih (hb.push hfault) h
    refine ⟨b', ?_⟩
    rw [List.foldlM_cons, extend_of_fault?_eq_none hfault]
    exact hb'

/-- What is built holds the rows; without rows it has no columns either. -/
theorem Holds.build (hb : b.Holds rows) :
    b.build.Holds rows ∧ (rows = [] → b.build.cols = 0) := by
  unfold Builder.build
  unfold Holds at hb
  cases hg : b.soFar with
  | none =>
    rw [hg] at hb
    simp only at hb
    subst hb
    exact ⟨Layout.holds_ofWidth 0, fun _ => rfl⟩
  | some g =>
    rw [hg] at hb
    exact ⟨hb.2, fun hrows => absurd hrows hb.1⟩

end Builder

namespace Layout

variable {g : Layout} {rows : List (List Char)}

/-- The layout that is read from rows holds them. -/
theorem holds_of_ofRows (h : ofRows rows = .ok g) :
    g.Holds rows ∧ (rows = [] → g.cols = 0) := by
  unfold ofRows at h
  cases hrows : rows.foldlM Builder.extend {} with
  | error e =>
    rw [hrows] at h
    cases h
  | ok b =>
    rw [hrows] at h
    cases h
    exact (Builder.holds_empty.foldlM_extend hrows).build

/-- Readable rows are read. -/
theorem exists_ofRows {cols : Nat} (h : Readable rows cols) : ∃ g, ofRows rows = .ok g := by
  obtain ⟨b, hb⟩ := Builder.holds_empty.exists_foldlM_extend h
  refine ⟨b.build, ?_⟩
  rw [ofRows, hb]
  rfl

/-- Reading lines is reading the rows of their characters. -/
theorem ofLines_map_ofList (rows : List (List Char)) :
    ofLines (rows.map String.ofList) = ofRows rows := by
  rw [ofLines, List.map_map, String.toList_comp_ofList, List.map_id]

end Layout

end WaitingRoom
