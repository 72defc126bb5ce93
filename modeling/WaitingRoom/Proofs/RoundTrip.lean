import WaitingRoom.Proofs.Answers
import WaitingRoom.Proofs.Refusals
import WaitingRoom.Proofs.Scripts

/-!
# Printing and reading back

A plan is printed with a line feed after every row, and a text may do without the last one and may
have a carriage return before any. People are printed but not read back, since a plan is read before
anybody sits down.

* **`Text.lines_append_cons`**, **`Text.lines_of_not_mem`**: the lines of a text, one line feed at a
  time, with an induction to match (`Text.induction_lines`).
* **`Text.lines_flatMap`**: rows that are printed are the lines of what is printed.
* **`Text.flatMap_lines`**: a text whose lines have no carriage returns is printed from its lines, up
  to the ends of lines.
* **`Layout.Holds.render_eq_drawn`**: whatever is done to a layout, its plan is printed with the
  people drawn in.
* **`Layout.Holds.ofText_render`**: reading that back gives the plan again, unless somebody is drawn
  in; then the mark of a taken seat is refused (`Layout.Holds.ofRows_drawn`).
* **`Layout.render_roundTrip`**: printing and reading back, from both ends.
-/

namespace WaitingRoom.Text

/-! ### Lines, one at a time -/

section lines

variable {α : Type} [DecidableEq α] {lf cr : α} {s t : List α}

/-- Without a line feed there is one line, if there is anything. -/
theorem lines_of_not_mem (hs : lf ∉ s) : lines lf cr s = if s = [] then [] else [s] := by
  rw [lines, List.splitOn_eq_singleton hs]
  by_cases hempty : s = [] <;> simp [hempty]

/-- A line feed ends a line. -/
theorem lines_append_cons (hs : lf ∉ s) :
    lines lf cr (s ++ lf :: t) = dropEnd cr s :: lines lf cr t := by
  have hne := List.splitOn_ne_nil lf t
  rw [lines, List.splitOn_append_cons_self_of_not_mem hs, List.dropLast_cons_of_ne_nil hne,
    List.map_cons, List.cons_append, List.getLast?_cons_of_ne_nil hne, lines]

/-- To prove something of all texts, go through them line by line. -/
@[elab_as_elim]
theorem induction_lines {motive : List α → Prop} (lf : α) (last : ∀ s, lf ∉ s → motive s)
    (line : ∀ s t, lf ∉ s → motive t → motive (s ++ lf :: t)) (text : List α) : motive text := by
  induction hn : text.length using Nat.strong_induction_on generalizing text with
  | _ n ih =>
    by_cases hmem : lf ∈ text
    · obtain ⟨s, t, rfl, hs⟩ := List.eq_append_cons_of_mem hmem
      rw [List.length_append, List.length_cons] at hn
      exact line s t hs (ih t.length (by omega) t rfl)
    · exact last text hmem

/-- A list without the end character is left as it is. -/
theorem dropEnd_of_not_mem (hs : cr ∉ s) : dropEnd cr s = s := by
  rw [dropEnd, if_neg fun hlast => hs (List.mem_of_getLast? hlast)]

/-- Rows that are printed are the lines of what is printed. -/
theorem lines_flatMap {rows : List (List α)} (hrows : ∀ row ∈ rows, lf ∉ row ∧ cr ∉ row) :
    lines lf cr (rows.flatMap (· ++ [lf])) = rows := by
  induction rows with
  | nil => rfl
  | cons row rows ih =>
    rw [List.forall_mem_cons] at hrows
    obtain ⟨⟨hlf, hcr⟩, hrest⟩ := hrows
    rw [List.flatMap_cons, List.append_assoc, List.singleton_append, lines_append_cons hlf,
      dropEnd_of_not_mem hcr, ih hrest]

end lines

/-! ### Ends of lines -/

/-- The text without the carriage returns that stand right before a line feed. -/
def dropReturns : List Char → List Char
  | '\r' :: '\n' :: rest => '\n' :: dropReturns rest
  | c :: rest => c :: dropReturns rest
  | [] => []

/-- What a text lacks at its end: a line feed, unless it is empty or ends in one. -/
def missingFeed (text : List Char) : List Char :=
  if text = [] ∨ text.getLast? = some '\n' then [] else ['\n']

/-- Any other character is kept. -/
theorem dropReturns_cons {c : Char} (hc : c ≠ '\r') (rest : List Char) :
    dropReturns (c :: rest) = c :: dropReturns rest := by
  rw [dropReturns]
  rintro _ rfl
  exact absurd rfl hc

/-- So are those before a return. -/
theorem dropReturns_append {s : List Char} (hs : '\r' ∉ s) (t : List Char) :
    dropReturns (s ++ t) = s ++ dropReturns t := by
  induction s with
  | nil => rfl
  | cons c s ih =>
    rw [List.mem_cons, not_or] at hs
    rw [List.cons_append, dropReturns_cons (Ne.symm hs.1), ih hs.2, List.cons_append]

/-- However a line is ended, only the line feed of its end is left. -/
theorem dropReturns_line {s : List Char} (hs : '\r' ∉ dropEnd '\r' s) (t : List Char) :
    dropReturns (s ++ '\n' :: t) = dropEnd '\r' s ++ '\n' :: dropReturns t := by
  rcases eq_dropEnd_or '\r' s with hend | hend
  · rw [← hend] at hs ⊢
    rw [dropReturns_append hs, dropReturns_cons (by decide)]
  · nth_rewrite 1 [hend]
    rw [List.append_assoc, dropReturns_append hs]
    rfl

/-- Whether the last line feed is missing is seen behind the first line. -/
theorem missingFeed_line (s t : List Char) : missingFeed (s ++ '\n' :: t) = missingFeed t := by
  cases t with
  | nil => simp [missingFeed]
  | cons c t => simp [missingFeed, List.getLast?_append, List.getLast?_cons_cons]

/-- A text whose lines have no carriage returns is printed from its lines, but for the carriage
returns at their ends and the last line feed. -/
theorem flatMap_lines {text : List Char} (h : ∀ line ∈ lines '\n' '\r' text, '\r' ∉ line) :
    (lines '\n' '\r' text).flatMap (· ++ ['\n']) = dropReturns text ++ missingFeed text := by
  induction text using induction_lines '\n' with
  | last s hs =>
    rw [lines_of_not_mem hs] at h ⊢
    by_cases hempty : s = []
    · rw [hempty]
      rfl
    · rw [if_neg hempty] at h ⊢
      have hcr : '\r' ∉ s := h s (List.mem_singleton_self s)
      have hend : s.getLast? ≠ some '\n' := fun hlast => hs (List.mem_of_getLast? hlast)
      have hdrop : dropReturns s = s := by
        have hall := dropReturns_append hcr []
        rwa [dropReturns, List.append_nil] at hall
      rw [hdrop, missingFeed, if_neg (not_or.2 ⟨hempty, hend⟩), List.flatMap_singleton]
  | line s t hs ih =>
    rw [lines_append_cons hs, List.forall_mem_cons] at h
    rw [lines_append_cons hs, List.flatMap_cons, ih h.2, dropReturns_line h.1, missingFeed_line]
    simp

end WaitingRoom.Text

namespace WaitingRoom

/-! ### People drawn in -/

/-- With nobody seated a plan is drawn as it is. -/
theorem drawn_empty (rows : List (List Char)) : drawn rows ∅ = rows := by
  have hkept : ∀ row : List Char, row.mapIdx (fun _ c => c) = row := fun row =>
    List.ext_getElem (by simp) (by simp)
  apply List.ext_getElem
  · rw [drawn, List.length_mapIdx]
  · intro i _ _
    simp [drawn, hkept]

/-- A drawn row is as long as that of the plan, and has no other marks but those of taken seats. -/
theorem exists_of_mem_drawn {rows : List (List Char)} {X : Finset Position} {row : List Char}
    (h : row ∈ drawn rows X) :
    ∃ plain ∈ rows, row.length = plain.length ∧ ∀ c ∈ row, c = '#' ∨ c ∈ plain := by
  obtain ⟨i, hi, rfl⟩ := List.mem_mapIdx.1 h
  refine ⟨rows[i], List.getElem_mem hi, List.length_mapIdx, fun c hc => ?_⟩
  obtain ⟨j, hj, rfl⟩ := List.mem_mapIdx.1 hc
  split
  · exact .inl rfl
  · exact .inr (List.getElem_mem hj)

namespace Layout

variable {g h : Layout} {rows : List (List Char)} {X : Finset Position}

/-- Rows of one length are refused for a mark only. -/
theorem exists_mark_of_ofRows_eq_error {cols : Nat} {e : RowError}
    (hlength : ∀ row ∈ rows, row.length = cols) (he : ofRows rows = .error e) :
    ∃ row ∈ rows, ∃ c ∈ row, ¬(c = 'L' ∨ c = '.') ∧ e = .mark c := by
  obtain ⟨before, row, after, rfl, -, hfault⟩ := ofRows_eq_error_iff.1 he
  have hrow : row ∈ before ++ row :: after := List.mem_append_right _ List.mem_cons_self
  cases hfault with
  | length hne =>
    have hfirst : ((before ++ row :: after).headD []).length = cols := by
      cases before with
      | nil => exact hlength row hrow
      | cons first before => exact hlength first List.mem_cons_self
    exact absurd ((hlength row hrow).trans hfirst.symm) hne
  | @mark left right c _ hsplit _ hbad =>
    refine ⟨row, hrow, c, ?_, hbad, rfl⟩
    rw [hsplit]
    exact List.mem_append_right _ List.mem_cons_self

/-- Rows of marks are read back as they were printed. -/
theorem ofText_unlines (hrows : ∀ row ∈ rows, '\n' ∉ row ∧ '\r' ∉ row) :
    ofText (Text.unlines rows) = ofRows rows := by
  rw [ofText, Text.charLines, Text.unlines, String.toList_ofList, Text.lines_flatMap hrows]

namespace Holds

/-- Whatever is done to a layout, its plan is printed with the people drawn in. -/
theorem render_eq_drawn (hg : g.Holds rows) (hfloor : SameFloor h g) :
    h.render = Text.unlines (drawn rows h.takenPlaces) := by
  have hseats := hfloor.takenPlaces_subset
  have halike : Alike h (g.seated h.takenPlaces) :=
    alike_of_takenPlaces (hfloor.trans (g.sameFloor_seated _).symm) (takenPlaces_seated hseats).symm
  rw [halike.render, render_eq, hg.picture_seated hseats]

/-- A layout that holds a plan is printed as the plan. -/
theorem render_eq (hg : g.Holds rows) : g.render = Text.unlines rows := by
  rw [hg.render_eq_drawn (.refl g), hg.unused.takenPlaces_eq, drawn_empty]

/-- No drawn row has a character that ends a line. -/
theorem ofText_unlines_drawn (hg : g.Holds rows) (X : Finset Position) :
    ofText (Text.unlines (drawn rows X)) = ofRows (drawn rows X) := by
  have hmark : ∀ row ∈ drawn rows X, ∀ c ∈ row, c = '#' ∨ c = 'L' ∨ c = '.' := by
    intro row hrow c hc
    obtain ⟨plain, hplain, -, hmarks⟩ := exists_of_mem_drawn hrow
    exact (hmarks c hc).imp_right (hg.readable.mark plain hplain c)
  refine ofText_unlines fun row hrow => ⟨fun hlf => ?_, fun hcr => ?_⟩
  · exact absurd (hmark row hrow _ hlf) (by decide)
  · exact absurd (hmark row hrow _ hcr) (by decide)

/-- With somebody drawn in, the mark of a taken seat is refused. -/
theorem ofRows_drawn (hg : g.Holds rows) (hX : X ⊆ g.seatPlaces) (hne : X.Nonempty) :
    ofRows (drawn rows X) = .error (.mark '#') := by
  cases hread : ofRows (drawn rows X) with
  | ok k =>
    -- the picture shows somebody, and no row that was read does
    have hcount : (drawn rows X).flatten.count '#' = X.card := by
      rw [← hg.picture_seated hX, count_picture, takenPlaces_seated hX]
    have hmem : '#' ∈ (drawn rows X).flatten := by
      rw [← List.count_pos_iff, hcount]
      exact hne.card_pos
    obtain ⟨row, hrow, hc⟩ := List.mem_flatten.1 hmem
    exact absurd ((holds_of_ofRows hread).1.readable.mark row hrow _ hc) (by decide)
  | error e =>
    have hlength : ∀ row ∈ drawn rows X, row.length = g.cols := by
      intro row hrow
      obtain ⟨plain, hplain, hlength, -⟩ := exists_of_mem_drawn hrow
      rw [hlength, hg.readable.length plain hplain]
    obtain ⟨row, hrow, c, hc, hbad, rfl⟩ := exists_mark_of_ofRows_eq_error hlength hread
    obtain ⟨plain, hplain, -, hmarks⟩ := exists_of_mem_drawn hrow
    rcases hmarks c hc with rfl | hmark
    · rfl
    · exact absurd (hg.readable.mark plain hplain c hmark) hbad

end Holds

/-- Reading back whatever became of a plan gives the plan, or the mark of a taken seat is refused. -/
theorem Holds.ofText_render (hg : g.Holds rows) (hfloor : SameFloor h g) :
    ofText h.render = if h.takenPlaces = ∅ then ofRows rows else .error (.mark '#') := by
  rw [hg.render_eq_drawn hfloor, hg.ofText_unlines_drawn]
  split
  · next hempty => rw [hempty, drawn_empty]
  · next hne =>
    exact hg.ofRows_drawn hfloor.takenPlaces_subset (Finset.nonempty_iff_ne_empty.2 hne)

/-- **Printing and reading back.** A plan that was read and is printed is read again as the same
layout. After any script on it, simulations included, reading its print fails exactly when somebody is
seated, and then for the mark of a taken seat; otherwise it gives the plan as it was before the
script. From the other end, a text that can be read is printed as its lines, each ended by a line
feed, which is the text with every carriage return before a line feed left out and with a line feed
added if it is not empty and does not end in one. -/
theorem render_roundTrip :
    (∀ lines g, ofLines lines = .ok g →
      ofText g.render = .ok g ∧
        ∀ script h, g.performAll script = .ok h →
          ((∃ e, ofText h.render = .error e) ↔ ∃ p, h.isTaken p = true) ∧
            (∀ e, ofText h.render = .error e → e = .mark '#') ∧
            ((∀ p, h.isTaken p = false) → ofText h.render = .ok g)) ∧
      ∀ text g, ofText text = .ok g →
        g.render = Text.unlines (Text.charLines text) ∧
          g.render = String.ofList (Text.dropReturns text.toList ++ Text.missingFeed text.toList) := by
  constructor
  · intro lines g hg
    have hholds := (holds_of_ofRows hg).1
    have hrows : ofRows (lines.map String.toList) = .ok g := hg
    refine ⟨?_, fun script h hh => ?_⟩
    · rw [hholds.ofText_render (.refl g), if_pos hholds.unused.takenPlaces_eq, hrows]
    have hread := hholds.ofText_render (edited_performAll hh).sameFrame.sameFloor
    rw [hrows] at hread
    by_cases hempty : h.takenPlaces = ∅
    · have hnobody : ∀ p, h.isTaken p ≠ true := by
        intro p hp
        rw [← mem_takenPlaces, hempty] at hp
        exact absurd hp (Finset.notMem_empty p)
      rw [hread, if_pos hempty]
      exact ⟨iff_of_false (by simp) (by simpa using hnobody), by simp, fun _ => rfl⟩
    · obtain ⟨p, hp⟩ := Finset.nonempty_iff_ne_empty.2 hempty
      rw [mem_takenPlaces] at hp
      rw [hread, if_neg hempty]
      refine ⟨iff_of_true ⟨_, rfl⟩ ⟨p, hp⟩, ?_, fun hnobody => ?_⟩
      · rintro e ⟨⟩
        rfl
      · rw [hnobody p] at hp
        cases hp
  · intro text g hg
    have hholds := (holds_of_ofRows hg).1
    have hreturns : ∀ line ∈ Text.charLines text, '\r' ∉ line := fun line hline hcr =>
      absurd (hholds.readable.mark line hline _ hcr) (by decide)
    rw [hholds.render_eq, Text.unlines, Text.charLines, Text.flatMap_lines hreturns]
    exact ⟨rfl, rfl⟩

/-- Two seats across from each other. -/
def acrossHall : Layout := ofWidth 2 |>.pushRow ['L', '.'] |>.pushRow ['.', 'L']

/-- Read from a text with a carriage return and without a last line feed, printed and read again, and
refused once somebody has sat down. -/
theorem render_roundTrip_acrossHall :
    ofLines ["L.", ".L"] = .ok acrossHall ∧ ofText acrossHall.render = .ok acrossHall ∧
      ofText "L.\r\n.L" = .ok acrossHall ∧ acrossHall.render = "L.\n.L\n" ∧
      ∃ h, acrossHall.performAll [.simulate Mode.adjacent.rule 2, .occupy ⟨1, 1⟩ false] = .ok h ∧
        h.isTaken ⟨0, 0⟩ = true ∧ ofText h.render = .error (.mark '#') := by
  have hlines : ofLines ["L.", ".L"] = .ok acrossHall := by decide +kernel
  have htext : ofText "L.\r\n.L" = .ok acrossHall := by decide +kernel
  obtain ⟨hagain, hscripts⟩ := render_roundTrip.1 _ _ hlines
  refine ⟨hlines, hagain, htext, (render_roundTrip.2 _ _ htext).2.trans (by decide +kernel), ?_⟩
  refine ⟨_, rfl, by decide +kernel, ?_⟩
  obtain ⟨hfails, hmark, -⟩ := hscripts [.simulate Mode.adjacent.rule 2, .occupy ⟨1, 1⟩ false] _ rfl
  obtain ⟨e, he⟩ := hfails.2 ⟨⟨0, 0⟩, by decide +kernel⟩
  rw [he, hmark e he]

end Layout

end WaitingRoom
