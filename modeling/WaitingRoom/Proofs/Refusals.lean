import WaitingRoom.Proofs.Reading

/-!
# Accepted plans and refused rows

A plan is accepted when all its rows have one length and no other marks than those of a free seat
and of floor. Otherwise the first row at fault is named with its fault.

* **`FaultOf`**: what is wrong with a row, said without a reader: another length than the first row
  has, or else its first character that is no mark of a plan.
* **`Layout.rowFault?_eq_some_iff`**: that is what a layout says of a row offered to it.
* **`Layout.ofRows_eq_error_iff`**: a plan is refused for the fault of its first row at fault.
* **`Layout.ofLines_exact`**: what is accepted, what the layout then is, and what is said otherwise.
-/

namespace WaitingRoom

/-- What is wrong with a row of a plan whose first row has the given length. The length is looked at
before the marks. -/
inductive FaultOf (cols : Nat) (row : List Char) : RowError → Prop
  /-- The row has another length. -/
  | length (hlength : row.length ≠ cols) : FaultOf cols row (.length row.length cols)
  /-- The row has the length, and its first character that is no mark is `c`. -/
  | mark {before after : List Char} {c : Char} (hlength : row.length = cols)
    (hrow : row = before ++ c :: after) (hbefore : ∀ m ∈ before, m = 'L' ∨ m = '.')
    (hc : ¬(c = 'L' ∨ c = '.')) : FaultOf cols row (.mark c)

/-- The bad mark of a row is its first one that cannot be read. -/
theorem badMark?_eq_some_iff {row : List Char} {c : Char} :
    badMark? row = some c ↔ ∃ before after, row = before ++ c :: after ∧
      (∀ m ∈ before, m = 'L' ∨ m = '.') ∧ ¬(c = 'L' ∨ c = '.') := by
  have hmark : ∀ m, (Spot.ofMark? m).isNone = true ↔ ¬(m = 'L' ∨ m = '.') := by
    intro m
    rw [← isSome_ofMark?_iff, Option.isNone_iff_eq_none, Option.isSome_iff_ne_none, not_not]
  rw [badMark?, List.find?_eq_some_iff_append]
  simp only [hmark, Bool.not_eq_true', ← Bool.not_eq_true, not_not]
  constructor
  · rintro ⟨hc, before, after, hrow, hbefore⟩
    exact ⟨before, after, hrow, hbefore, hc⟩
  · rintro ⟨before, after, hrow, hbefore, hc⟩
    exact ⟨hc, before, after, hrow, hbefore⟩

/-- A fold stops at the first element that its step refuses. -/
theorem foldlM_eq_error_iff {α β ε : Type} {f : β → α → Except ε β} {l : List α} {b : β} {e : ε} :
    l.foldlM f b = .error e ↔ ∃ before a after b', l = before ++ a :: after ∧
      before.foldlM f b = .ok b' ∧ f b' a = .error e := by
  induction l generalizing b with
  | nil => simp [pure, Except.pure]
  | cons x l ih =>
    rw [List.foldlM_cons]
    cases hx : f b x with
    | error e' =>
      constructor
      · intro he
        cases he
        exact ⟨[], x, l, b, rfl, rfl, hx⟩
      · rintro ⟨before, a, after, b', hl, hbefore, ha⟩
        rcases before with _ | ⟨y, before⟩
        · cases hbefore
          cases hl
          exact hx.symm.trans ha
        · cases hl
          rw [List.foldlM_cons, hx] at hbefore
          cases hbefore
    | ok next =>
      refine Iff.trans ih ?_
      constructor
      · rintro ⟨before, a, after, b', rfl, hbefore, ha⟩
        refine ⟨x :: before, a, after, b', rfl, ?_, ha⟩
        rw [List.foldlM_cons, hx]
        exact hbefore
      · rintro ⟨before, a, after, b', hl, hbefore, ha⟩
        rcases before with _ | ⟨y, before⟩
        · cases hbefore
          cases hl
          rw [hx] at ha
          cases ha
        · cases hl
          rw [List.foldlM_cons, hx] at hbefore
          exact ⟨before, a, after, b', rfl, hbefore, ha⟩

namespace Layout

variable {g : Layout} {rows : List (List Char)} {row : List Char} {e : RowError}

/-- The fault found is the fault there is at the width of the layout. -/
theorem rowFault?_eq_some_iff : g.rowFault? row = some e ↔ FaultOf g.cols row e := by
  rw [rowFault?]
  split
  · next hlength =>
    rw [Option.map_eq_some_iff]
    constructor
    · rintro ⟨c, hc, rfl⟩
      obtain ⟨before, after, hrow, hbefore, hc⟩ := badMark?_eq_some_iff.1 hc
      exact .mark hlength hrow hbefore hc
    · intro hfault
      cases hfault with
      | length hne => exact absurd hlength hne
      | mark _ hrow hbefore hc => exact ⟨_, badMark?_eq_some_iff.2 ⟨_, _, hrow, hbefore, hc⟩, rfl⟩
  · next hlength =>
    rw [Option.some.injEq]
    constructor
    · rintro rfl
      exact .length hlength
    · intro hfault
      cases hfault with
      | length => rfl
      | mark heq => exact absurd heq hlength

end Layout

namespace Builder

variable {b : Builder} {done : List (List Char)} {row : List Char} {e : RowError}

/-- A row is offered to a layout as wide as the first row of all, which may be the row itself. -/
theorem Holds.cols_forRow (hb : b.Holds done) (row : List Char) :
    (b.forRow row).cols = ((done ++ [row]).headD []).length := by
  obtain ⟨hforRow, hfirst⟩ := hb.forRow row
  cases done with
  | nil => exact hfirst rfl
  | cons first rest => exact hforRow.cols_eq List.mem_cons_self

/-- The strict reader refuses a row for its fault at the width of the first row. -/
theorem Holds.extend_eq_error_iff (hb : b.Holds done) :
    b.extend row = .error e ↔ FaultOf ((done ++ [row]).headD []).length row e := by
  rw [← hb.cols_forRow row, ← Layout.rowFault?_eq_some_iff, extend, fault?]
  cases (b.forRow row).rowFault? row <;> simp

end Builder

namespace Layout

variable {rows : List (List Char)} {e : RowError}

/-- A plan is refused for the fault of its first row at fault. -/
theorem ofRows_eq_error_iff :
    ofRows rows = .error e ↔ ∃ before row after, rows = before ++ row :: after ∧
      Readable before (rows.headD []).length ∧ FaultOf (rows.headD []).length row e := by
  have hofRows : ofRows rows = .error e ↔ rows.foldlM Builder.extend {} = .error e := by
    rw [ofRows]
    cases rows.foldlM Builder.extend {} <;> simp
  rw [hofRows, foldlM_eq_error_iff]
  refine exists_congr fun before => exists_congr fun row => exists_congr fun after => ?_
  have hfirst : (before ++ row :: after).headD [] = (before ++ [row]).headD [] := by
    cases before <;> rfl
  constructor
  · rintro ⟨b, rfl, hbefore, hrow⟩
    have hb : b.Holds before := Builder.holds_empty.foldlM_extend hbefore
    refine ⟨rfl, ?_, ?_⟩
    · rw [hfirst, ← hb.cols_forRow row]
      exact (hb.forRow row).1.readable
    · rw [hfirst]
      exact hb.extend_eq_error_iff.1 hrow
  · rintro ⟨rfl, hreadable, hfault⟩
    obtain ⟨b, hbefore⟩ := Builder.holds_empty.exists_foldlM_extend hreadable
    have hb : b.Holds before := Builder.holds_empty.foldlM_extend hbefore
    refine ⟨b, rfl, hbefore, ?_⟩
    rw [hfirst] at hfault
    exact hb.extend_eq_error_iff.2 hfault

/-- A readable plan fills its layout, place by place. -/
theorem Holds.size_cells {g : Layout} (hg : g.Holds rows) : g.cells.size = g.rows * g.cols := by
  rw [← Array.length_toList, hg.cells, hg.readable.length_flatMap_readableCells, hg.rows]

/-- Where a plan has a mark the layout has a seat or floor, and nothing is in use. -/
theorem Holds.exists_cell? {g : Layout} (hg : g.Holds rows) {p : Position} {c : Char}
    (hc : markAt rows p = some c) :
    ∃ cell, g.cell? p = some cell ∧ (cell.spot.isSeat = true ↔ c = 'L') ∧
      cell.spot.isTaken = false ∧ cell.tally = 0 := by
  rcases hg.readable.mark_of_markAt hc with rfl | rfl
  · exact ⟨{ spot := .free }, by rw [hg.cell?_eq, hc]; rfl, by decide, rfl, rfl⟩
  · exact ⟨{ spot := .floor }, by rw [hg.cell?_eq, hc]; rfl, by decide, rfl, rfl⟩

/-- **The reader accepts exactly its format and names the first fault.** A list of lines is accepted
exactly when all of them have one length and no other marks than `L` and `.`. Then the layout has a
row for each line and the width that they share, none without lines; it stores as many cells as it
has places, and at each place a seat exactly where the mark is `L`, with nobody on it and nothing
tallied, and no cell anywhere else. Otherwise there is a first line at fault, whose length is not that
of the first line or which has a character that is no mark; its fault is told, the length before the
first such character. -/
theorem ofLines_exact (lines : List String) :
    ((∃ g, ofLines lines = .ok g) ↔ ∃ n, Readable (lines.map String.toList) n) ∧
      (∀ g, ofLines lines = .ok g →
        g.rows = lines.length ∧ g.cols = (lines.headD "").length ∧
          (∀ line ∈ lines, line.length = g.cols) ∧ g.cells.size = g.rows * g.cols ∧
          (∀ p c, markAt (lines.map String.toList) p = some c →
            ∃ cell, g.cell? p = some cell ∧ (cell.spot.isSeat = true ↔ c = 'L') ∧
              cell.spot.isTaken = false ∧ cell.tally = 0) ∧
          ∀ p, markAt (lines.map String.toList) p = none → g.cell? p = none) ∧
      ∀ e, ofLines lines = .error e ↔
        ∃ before line after, lines = before ++ line :: after ∧
          Readable (before.map String.toList) (lines.headD "").length ∧
          FaultOf (lines.headD "").length line.toList e := by
  have hfirst : ((lines.map String.toList).headD []).length = (lines.headD "").length := by
    cases lines with
    | nil => rfl
    | cons line rest => exact String.length_toList
  refine ⟨⟨?_, ?_⟩, ?_, ?_⟩
  · rintro ⟨g, hg⟩
    exact ⟨g.cols, (holds_of_ofRows hg).1.readable⟩
  · rintro ⟨n, hreadable⟩
    exact exists_ofRows hreadable
  · intro g hg
    obtain ⟨hholds, hempty⟩ := holds_of_ofRows hg
    have hlength : ∀ line ∈ lines, line.length = g.cols := by
      intro line hline
      rw [← String.length_toList]
      exact hholds.readable.length line.toList (List.mem_map_of_mem hline)
    refine ⟨?_, ?_, hlength, hholds.size_cells, fun p c => hholds.exists_cell?, fun p hp => ?_⟩
    · rw [hholds.rows, List.length_map]
    · rcases lines with _ | ⟨line, rest⟩
      · exact hempty rfl
      · exact (hlength line List.mem_cons_self).symm
    · rw [hholds.cell?_eq, hp]
      rfl
  · intro e
    rw [ofLines, ofRows_eq_error_iff, hfirst]
    constructor
    · rintro ⟨before, row, after, hlines, hreadable, hfault⟩
      obtain ⟨before, rest, rfl, rfl, hrest⟩ := List.map_eq_append_iff.1 hlines
      obtain ⟨line, after, rfl, rfl, rfl⟩ := List.map_eq_cons_iff.1 hrest
      exact ⟨before, line, after, rfl, hreadable, hfault⟩
    · rintro ⟨before, line, after, hlines, hreadable, hfault⟩
      refine ⟨before.map String.toList, line.toList, after.map String.toList, ?_, hreadable, hfault⟩
      rw [hlines, List.map_append, List.map_cons]

/-- Of a bad mark and a longer line after it, the mark is told. -/
theorem ofLines_exact_badMark :
    FaultOf 2 ".é".toList (.mark 'é') ∧ FaultOf 2 "L.#".toList (.length 3 2) ∧
      ofLines ["L.", ".é", "L.#"] = .error (.mark 'é') := by
  have hmark : FaultOf 2 ".é".toList (.mark 'é') :=
    @FaultOf.mark 2 ".é".toList ['.'] [] 'é' rfl rfl (by simp) (by decide)
  have hbefore : Readable [['L', '.']] 2 := Readable.singleton_iff.2 ⟨rfl, by simp⟩
  refine ⟨hmark, .length (by decide), ?_⟩
  exact ((ofLines_exact _).2.2 _).2 ⟨["L."], ".é", ["L.#"], rfl, hbefore, hmark⟩

end Layout

end WaitingRoom
