import Mathlib.Data.List.Flatten
import Mathlib.Data.List.Forall2
import WaitingRoom.Proofs.Refusals

/-!
# Rows offered one after another

Whoever builds a layout may go on after a refusal. This file says what all rows offered so far have
come to, the refused ones included.

* **`Builder.answers`**, **`Builder.taken`**: the answers to rows offered one after another, and the
  rows that are accepted among them.
* **`Layout.rows_pushRow`**, **`Layout.cells_pushRow`**: what one row changes, and the same for many
  rows (`Layout.rows_foldl_pushRow`, `Layout.cells_foldl_pushRow`). The width never changes, so every
  row is judged as if it were the only one (`Builder.answers_eq`).
* **`Builder.history_exact`**: the answers to any rows and the layout that they leave.
* **`Layout.pushRow_eq_self_iff`**, **`Builder.refused_trace`**: which refused rows leave no trace. The
  others add the cells before their bad mark, and the first row of all fixes the width, so that a
  layout may differ from that of its accepted rows (`Builder.refused_row_shifts`).
-/

namespace WaitingRoom

/-! ### The readable part of a row -/

/-- The cell that a mark of a plan stands for: a free seat or floor, with nothing tallied. -/
def planCell (c : Char) : Cell := { spot := if c = 'L' then .free else .floor }

/-- The cells of a row are those of its marks before the first bad one. -/
theorem readableCells_eq_takeWhile (row : List Char) :
    readableCells row = (row.takeWhile fun c => c = 'L' ∨ c = '.').map planCell := by
  induction row with
  | nil => rfl
  | cons c rest ih =>
    rw [readableCells, Spot.ofMark?]
    by_cases hL : c = 'L'
    · simp [hL, ih, planCell]
    · by_cases hdot : c = '.'
      · simp [hdot, ih, planCell]
      · simp [hL, hdot]

/-- Nothing of a row is readable when it is empty or does not begin with a mark. -/
theorem readableCells_eq_nil_iff {row : List Char} :
    readableCells row = [] ↔ ∀ c, row.head? = some c → ¬(c = 'L' ∨ c = '.') := by
  rw [readableCells_eq_takeWhile, List.map_eq_nil_iff]
  cases row with
  | nil => simp
  | cons c rest => simp [List.takeWhile_cons]

/-- Leaving elements out keeps what a list is mapped to exactly when they are mapped to nothing. -/
theorem flatMap_filter_eq_iff {α β : Type} {f : α → List β} {p : α → Bool} {l : List α} :
    l.flatMap f = (l.filter p).flatMap f ↔ ∀ a ∈ l, p a = false → f a = [] := by
  induction l with
  | nil => simp
  | cons a l ih =>
    rw [List.forall_mem_cons, ← ih, List.flatMap_cons]
    cases hp : p a with
    | true => simp [List.filter_cons_of_pos hp]
    | false =>
      have hle : ((l.filter p).flatMap f).length ≤ (l.flatMap f).length :=
        (List.filter_sublist.flatMap f).length_le
      rw [List.filter_cons_of_neg (by simp [hp])]
      constructor
      · intro heq
        -- what is left after leaving elements out is not longer, so nothing stood before it
        have hlength := congrArg List.length heq
        rw [List.length_append] at hlength
        have hnil : f a = [] := List.length_eq_zero_iff.1 (by omega)
        rw [hnil, List.nil_append] at heq
        exact ⟨fun _ => hnil, heq⟩
      · rintro ⟨hnil, heq⟩
        rw [hnil rfl, List.nil_append, heq]

namespace Layout

variable {g h : Layout} {row : List Char}

/-! ### What a row changes -/

/-- Layouts are the same when their sizes and stored cells are. -/
theorem eq_iff : g = h ↔ g.rows = h.rows ∧ g.cols = h.cols ∧ g.cells.toList = h.cells.toList := by
  rcases g with ⟨rows, cols, cells, _⟩
  rcases h with ⟨rows', cols', cells', _⟩
  simp [Array.toList_inj]

/-- No row changes the width. -/
@[simp] theorem cols_pushRow (g : Layout) (row : List Char) : (g.pushRow row).cols = g.cols := by
  unfold pushRow
  split <;> rfl

/-- A row is counted when it is accepted. -/
theorem rows_pushRow (g : Layout) (row : List Char) :
    (g.pushRow row).rows = g.rows + if g.rowFault? row = none then 1 else 0 := by
  unfold pushRow
  split <;> simp [*]

/-- A row of the right length leaves what is readable of it, accepted or not. -/
theorem cells_pushRow (g : Layout) (row : List Char) :
    (g.pushRow row).cells.toList =
      g.cells.toList ++ if row.length = g.cols then readableCells row else [] := by
  unfold pushRow
  split
  · next hfault =>
    have hlength := (Readable.singleton_iff.1 (rowFault?_eq_none_iff.1 hfault)).1
    simp [hlength]
  · next hfault =>
    cases rowFault?_eq_some_iff.1 hfault with
    | mark hlength => simp [hlength]
  · next hfault =>
    cases rowFault?_eq_some_iff.1 hfault with
    | length hlength => simp [hlength]

/-- What is said of a row depends on the width only. -/
theorem rowFault?_congr (hcols : g.cols = h.cols) : g.rowFault? = h.rowFault? := by
  funext row
  rw [rowFault?, rowFault?, hcols]

/-- No list of rows does. -/
theorem cols_foldl_pushRow (g : Layout) (rows : List (List Char)) :
    (rows.foldl pushRow g).cols = g.cols := by
  induction rows generalizing g with
  | nil => rfl
  | cons row rows ih => rw [List.foldl_cons, ih, cols_pushRow]

/-- Every row without fault adds one row. -/
theorem rows_foldl_pushRow (g : Layout) (rows : List (List Char)) :
    (rows.foldl pushRow g).rows = g.rows + (rows.map g.rowFault?).count none := by
  induction rows generalizing g with
  | nil => rfl
  | cons row rows ih =>
    rw [List.foldl_cons, ih, rows_pushRow, rowFault?_congr (g.cols_pushRow row), List.map_cons,
      List.count_cons]
    simp only [beq_iff_eq]
    omega

/-- Every row of the right length adds its cells before the first bad mark. -/
theorem cells_foldl_pushRow (g : Layout) (rows : List (List Char)) :
    (rows.foldl pushRow g).cells.toList =
      g.cells.toList ++ (rows.filter fun row => row.length = g.cols).flatMap readableCells := by
  induction rows generalizing g with
  | nil => simp
  | cons row rows ih =>
    rw [List.foldl_cons, ih, cells_pushRow, cols_pushRow, List.append_assoc]
    by_cases hlength : row.length = g.cols <;> simp [hlength]

/-- A row leaves no trace when it is refused and has another length or nothing readable. -/
theorem pushRow_eq_self_iff :
    g.pushRow row = g ↔
      g.rowFault? row ≠ none ∧ (row.length = g.cols → readableCells row = []) := by
  rw [eq_iff, rows_pushRow, cols_pushRow, cells_pushRow, and_iff_right rfl]
  refine and_congr ?_ ?_
  · split <;> simp [*]
  · split <;> simp [*]

/-- Refused rows may be left out when none of them leaves a cell. -/
theorem foldl_pushRow_filter_iff (g : Layout) (rows : List (List Char)) :
    rows.foldl pushRow g = (rows.filter fun row => g.rowFault? row = none).foldl pushRow g ↔
      ∀ row ∈ rows, g.rowFault? row ≠ none → row.length = g.cols → readableCells row = [] := by
  have hcount : (rows.map g.rowFault?).count none =
      ((rows.filter fun row => g.rowFault? row = none).map g.rowFault?).count none := by
    simp only [List.count, List.countP_map, List.countP_filter]
    refine congrArg (List.countP · rows) (funext fun row => ?_)
    cases hrow : g.rowFault? row <;> simp [hrow]
  -- both count the accepted rows and have the same width, so the cells decide
  rw [eq_iff, rows_foldl_pushRow, rows_foldl_pushRow, hcount, cols_foldl_pushRow,
    cols_foldl_pushRow, cells_foldl_pushRow, cells_foldl_pushRow, List.filter_comm,
    List.append_cancel_left_eq, flatMap_filter_eq_iff, and_iff_right rfl, and_iff_right rfl]
  simp only [List.mem_filter, decide_eq_true_eq, decide_eq_false_iff_not, and_imp]
  exact forall_congr' fun row => forall_congr' fun _ => forall_comm

/-! ### Where rows are stored -/

/-- The cells of a row are stored one after another. -/
theorem renderRow_eq_slice {i : Nat} (hi : i < g.rows) :
    g.renderRow i = ((g.cells.toList.drop (i * g.cols)).take g.cols).map fun c => c.spot.mark := by
  apply List.ext_getElem?
  intro j
  by_cases hj : j < g.cols
  · have hmem : (⟨i, j⟩ : Position) ∈ g := ⟨hi, hj⟩
    have hcell := (cell?_of_mem hmem).symm.trans (cell?_eq_views hmem)
    rw [index] at hcell
    simp [renderRow, hj, hcell]
  · simp [renderRow, hj]

/-- A row of a layout ends within the stored cells. -/
theorem succ_mul_cols_le {i : Nat} (hi : i < g.rows) : (i + 1) * g.cols ≤ g.cells.size :=
  (Nat.mul_le_mul_right g.cols hi).trans g.covers

end Layout

/-! ### Histories -/

namespace Builder

variable {rows : List (List Char)} {row : List Char}

/-- The answers to rows offered one after another: nothing, or what is wrong with the row. -/
def answers (b : Builder) : List (List Char) → List (Option RowError)
  | [] => []
  | row :: rows => b.fault? row :: (b.push row).answers rows

/-- The rows that are accepted when all are offered one after another. -/
def taken (b : Builder) : List (List Char) → List (List Char)
  | [] => []
  | row :: rows =>
    if b.fault? row = none then row :: (b.push row).taken rows else (b.push row).taken rows

/-- After the first row a builder offers rows to its layout. -/
@[simp] theorem push_some (g : Layout) (row : List Char) :
    (⟨some g⟩ : Builder).push row = ⟨some (g.pushRow row)⟩ := rfl

/-- It finds the faults that its layout finds. -/
@[simp] theorem fault?_some (g : Layout) (row : List Char) :
    (⟨some g⟩ : Builder).fault? row = g.rowFault? row := rfl

/-- So it does with many rows. -/
theorem foldl_push_some (g : Layout) (rows : List (List Char)) :
    rows.foldl push ⟨some g⟩ = ⟨some (rows.foldl Layout.pushRow g)⟩ := by
  induction rows generalizing g with
  | nil => rfl
  | cons row rows ih => rw [List.foldl_cons, push_some, ih, List.foldl_cons]

/-- Once the width is fixed, no row changes what is said of another. -/
theorem answers_some (g : Layout) (rows : List (List Char)) :
    (⟨some g⟩ : Builder).answers rows = rows.map g.rowFault? := by
  induction rows generalizing g with
  | nil => rfl
  | cons row rows ih =>
    rw [answers, push_some, ih, Layout.rowFault?_congr (g.cols_pushRow row), fault?_some,
      List.map_cons]

/-- Rows without fault are taken. -/
theorem taken_some (g : Layout) (rows : List (List Char)) :
    (⟨some g⟩ : Builder).taken rows = rows.filter fun row => g.rowFault? row = none := by
  induction rows generalizing g with
  | nil => rfl
  | cons row rows ih =>
    rw [taken, push_some, ih, Layout.rowFault?_congr (g.cols_pushRow row), fault?_some,
      List.filter_cons]
    simp only [decide_eq_true_eq]

/-- The width that rows get: the length of the first one, accepted or not. -/
def width (rows : List (List Char)) : Nat := (rows.headD []).length

/-- A first row finds a layout of its own length. -/
theorem foldl_push_of_ne_nil (hrows : rows ≠ []) :
    rows.foldl push {} = ⟨some (rows.foldl Layout.pushRow (.ofWidth (width rows)))⟩ := by
  cases rows with
  | nil => exact absurd rfl hrows
  | cons row rows => exact foldl_push_some _ rows

/-- The first row gives the width, and all rows are offered to an empty layout of it. -/
theorem build_foldl_push (rows : List (List Char)) :
    (rows.foldl push {}).build = rows.foldl Layout.pushRow (.ofWidth (width rows)) := by
  cases rows with
  | nil => rfl
  | cons row rows => rw [foldl_push_of_ne_nil (List.cons_ne_nil row rows), build, Option.getD_some]

/-- Every row is answered by the width alone. -/
theorem answers_eq (rows : List (List Char)) :
    ({} : Builder).answers rows = rows.map (Layout.ofWidth (width rows)).rowFault? := by
  cases rows with
  | nil => rfl
  | cons row rows => exact answers_some (.ofWidth row.length) (row :: rows)

/-- From the start on, the rows without fault at that width are taken. -/
theorem taken_eq (rows : List (List Char)) :
    ({} : Builder).taken rows =
      rows.filter fun row => (Layout.ofWidth (width rows)).rowFault? row = none := by
  cases rows with
  | nil => rfl
  | cons row rows => exact taken_some (.ofWidth row.length) (row :: rows)

/-- **What all rows come to.** Offer any rows one after another, whatever the answers are. A row is
accepted exactly when it has the length of the first row and no other marks than `L` and `.`;
otherwise its fault is told, the length before the first character that is no mark. The layout has
that width, none without rows, and a row for each row accepted. Its stored cells are those of the
marks with which the rows of that width begin, up to the first bad one. So there are at least as many
as places: there is a cell for every place, and every printed row is a stretch of the stored cells. -/
theorem history_exact (rows : List (List Char)) :
    let answers := ({} : Builder).answers rows
    let g := (rows.foldl push {}).build
    List.Forall₂ (fun row answer => (answer = none ↔ Readable [row] (width rows)) ∧
        ∀ e, answer = some e ↔ FaultOf (width rows) row e) rows answers ∧
      g.cols = width rows ∧ g.rows = answers.count none ∧
      g.cells.toList = ((rows.filter fun row => row.length = width rows).flatMap fun row =>
        (row.takeWhile fun c => c = 'L' ∨ c = '.').map planCell) ∧
      g.rows * g.cols ≤ g.cells.size ∧
      (∀ p ∈ g, ∃ c, g.cells[g.index p]? = some c ∧ g.cell? p = some c) ∧
      ∀ i < g.rows, (i + 1) * g.cols ≤ g.cells.size ∧ g.renderRow i =
        ((g.cells.toList.drop (i * g.cols)).take g.cols).map fun c => c.spot.mark := by
  intro answers g
  have hg : g = rows.foldl Layout.pushRow (.ofWidth (width rows)) := build_foldl_push rows
  have hanswers : answers = rows.map (Layout.ofWidth (width rows)).rowFault? := answers_eq rows
  refine ⟨?_, ?_, ?_, ?_, g.covers, fun p hp => ?_, fun i hi => ?_⟩
  · rw [hanswers, List.forall₂_map_right_iff, List.forall₂_same]
    exact fun row _ => ⟨Layout.rowFault?_eq_none_iff, fun e => Layout.rowFault?_eq_some_iff⟩
  · rw [hg, Layout.cols_foldl_pushRow]
    rfl
  · rw [hg, Layout.rows_foldl_pushRow, hanswers]
    exact Nat.zero_add _
  · rw [hg, Layout.cells_foldl_pushRow, ← funext readableCells_eq_takeWhile]
    rfl
  · obtain ⟨c, hc⟩ := Layout.exists_cell?_eq hp
    exact ⟨c, (Layout.cell?_of_mem hp).symm.trans hc, hc⟩
  · exact ⟨Layout.succ_mul_cols_le hi, Layout.renderRow_eq_slice hi⟩

/-- Rows of two marks: one with a bad mark after a seat, one of floor, one too short, and one that is
all right. The cells of the fourth row are shifted by the seat that the first one leaves. -/
theorem history_exact_shifted :
    ({} : Builder).answers [['L', 'x'], ['.', '.'], ['L'], ['.', 'L']] =
        [some (.mark 'x'), none, some (.length 1 2), none] ∧
      ∃ g, g = ([['L', 'x'], ['.', '.'], ['L'], ['.', 'L']].foldl push {}).build ∧
        g.cols = 2 ∧ g.rows = 2 ∧ g.cells.size = 5 ∧ (⟨1, 1⟩ : Position) ∈ g ∧
        (∃ c, g.cells[g.index ⟨1, 1⟩]? = some c ∧ g.cell? ⟨1, 1⟩ = some c) ∧
        g.renderRow 1 = ((g.cells.toList.drop (1 * g.cols)).take g.cols).map fun c => c.spot.mark := by
  obtain ⟨-, hcols, hrows, -, -, hcell, hslice⟩ :=
    history_exact [['L', 'x'], ['.', '.'], ['L'], ['.', 'L']]
  refine ⟨rfl, _, rfl, hcols, hrows, rfl, by decide, hcell _ (by decide), (hslice 1 (by decide)).2⟩

/-! ### Traces of refused rows -/

/-- Accepted rows have the width of all. -/
theorem width_taken (htaken : ({} : Builder).taken rows ≠ []) :
    width (({} : Builder).taken rows) = width rows := by
  obtain ⟨row, rest, hrow⟩ := List.exists_cons_of_ne_nil htaken
  have hmem : row ∈ ({} : Builder).taken rows := by
    rw [hrow]
    exact List.mem_cons_self
  rw [taken_eq, List.mem_filter, decide_eq_true_eq, Layout.rowFault?_eq_none_iff] at hmem
  rw [hrow]
  exact (Readable.singleton_iff.1 hmem.2).1

/-- Rows of no marks are accepted, so without an accepted row there is a width. -/
theorem width_ne_zero (hrows : rows ≠ []) (htaken : ({} : Builder).taken rows = []) :
    width rows ≠ 0 := by
  obtain ⟨row, rest, rfl⟩ := List.exists_cons_of_ne_nil hrows
  intro hwidth
  have hnil : row = [] := List.length_eq_zero_iff.1 hwidth
  subst hnil
  cases htaken

/-- A refused row leaves the builder as it was when it is not the first row and nothing of it is
read. -/
theorem push_eq_self_iff {e : RowError} (hfault : (rows.foldl push {}).fault? row = some e) :
    (rows.foldl push {}).push row = rows.foldl push {} ↔
      rows ≠ [] ∧ (row.length = width rows → readableCells row = []) := by
  by_cases hrows : rows = []
  · subst hrows
    refine iff_of_false (fun heq => ?_) (fun h => h.1 rfl)
    exact Option.some_ne_none _ (congrArg Builder.soFar heq)
  · have hcols : (rows.foldl Layout.pushRow (.ofWidth (width rows))).cols = width rows :=
      Layout.cols_foldl_pushRow _ rows
    rw [foldl_push_of_ne_nil hrows] at hfault ⊢
    rw [fault?_some] at hfault
    have hrefused := Option.ne_none_iff_exists'.2 ⟨e, hfault⟩
    rw [push_some, Builder.mk.injEq, Option.some.injEq, Layout.pushRow_eq_self_iff, hcols,
      and_iff_right hrefused, and_iff_right hrows]

/-- All rows build what the accepted ones build when no other row leaves cells or a width behind. -/
theorem build_taken_eq_iff (rows : List (List Char)) :
    (rows.foldl push {}).build = ((({} : Builder).taken rows).foldl push {}).build ↔
      (rows ≠ [] → ({} : Builder).taken rows ≠ []) ∧
        ∀ row ∈ rows, row ∉ ({} : Builder).taken rows → row.length = width rows →
          readableCells row = [] := by
  rw [build_foldl_push, build_foldl_push]
  by_cases htaken : ({} : Builder).taken rows = []
  · by_cases hrows : rows = []
    · subst hrows
      exact iff_of_true rfl ⟨fun h => h, by simp⟩
    · -- the first row has fixed a width, and without rows there is none
      refine iff_of_false (fun heq => ?_) (fun h => h.1 hrows htaken)
      have hcols := congrArg Layout.cols heq
      rw [Layout.cols_foldl_pushRow, htaken] at hcols
      exact width_ne_zero hrows htaken hcols
  · have hrefused : ∀ row ∈ rows, (row ∉ ({} : Builder).taken rows ↔
        (Layout.ofWidth (width rows)).rowFault? row ≠ none) := by
      intro row hrow
      rw [taken_eq, List.mem_filter, and_iff_right hrow, decide_eq_true_eq]
    have hfilter := Layout.foldl_pushRow_filter_iff (.ofWidth (width rows)) rows
    rw [← taken_eq] at hfilter
    rw [width_taken htaken, and_iff_right fun _ => htaken, hfilter]
    exact forall_congr' fun row => forall_congr' fun hrow => imp_congr_left (hrefused row hrow).symm

/-- **Which refused rows leave no trace.** After any rows, a refused row leaves the builder as it was
exactly when it is not the first row and has the wrong length or begins with its bad mark. All rows
together build what the accepted rows build by themselves exactly when there is an accepted row, if
any row at all, and every refused row of the right length begins with its bad mark. -/
theorem refused_trace (rows : List (List Char)) :
    (∀ row e, (rows.foldl push {}).fault? row = some e →
        ((rows.foldl push {}).push row = rows.foldl push {} ↔
          rows ≠ [] ∧ (row.length = width rows →
            ∀ c, row.head? = some c → ¬(c = 'L' ∨ c = '.')))) ∧
      ((rows.foldl push {}).build = ((({} : Builder).taken rows).foldl push {}).build ↔
        (rows ≠ [] → ({} : Builder).taken rows ≠ []) ∧
          ∀ row ∈ rows, row ∉ ({} : Builder).taken rows → row.length = width rows →
            ∀ c, row.head? = some c → ¬(c = 'L' ∨ c = '.')) := by
  simp only [← readableCells_eq_nil_iff]
  exact ⟨fun row e hfault => push_eq_self_iff hfault, build_taken_eq_iff rows⟩

/-- After a row of floor, a row that is too short and one that begins with its bad mark leave no
trace. -/
theorem refused_trace_floor :
    ([['.', '.']].foldl push {}).fault? ['L'] = some (.length 1 2) ∧
      ([['.', '.']].foldl push {}).push ['L'] = [['.', '.']].foldl push {} ∧
      ([['.', '.'], ['L'], ['x', 'L']].foldl push {}).build =
        ((({} : Builder).taken [['.', '.'], ['L'], ['x', 'L']]).foldl push {}).build := by
  refine ⟨rfl, ((refused_trace [['.', '.']]).1 ['L'] _ rfl).2 ⟨by decide, fun hlength => ?_⟩,
    (refused_trace _).2.2 ⟨fun _ => by decide, fun row hrow htaken hlength c hc => ?_⟩⟩
  · exact absurd hlength (by decide)
  · simp only [List.mem_cons, List.not_mem_nil, or_false] at hrow
    rcases hrow with rfl | rfl | rfl
    · exact absurd (by decide) htaken
    · exact absurd hlength (by decide)
    · cases hc
      decide

/-- A refused row may leave its beginning behind: a row of floor that is accepted after it is then
printed as that beginning, and the layout is not that of the accepted row. -/
theorem refused_row_shifts :
    ({} : Builder).fault? ['L', 'x'] = some (.mark 'x') ∧ ({} : Builder).push ['L', 'x'] ≠ {} ∧
      ({} : Builder).taken [['L', 'x'], ['.', '.']] = [['.', '.']] ∧
      ([['L', 'x'], ['.', '.']].foldl push {}).build.render = "L.\n" ∧
      ([['.', '.']].foldl push {}).build.render = "..\n" ∧
      ([['L', 'x'], ['.', '.']].foldl push {}).build ≠ ([['.', '.']].foldl push {}).build := by
  refine ⟨rfl, fun heq => ?_, rfl, rfl, rfl, by decide⟩
  exact Option.some_ne_none _ (congrArg Builder.soFar heq)

end Builder

end WaitingRoom
