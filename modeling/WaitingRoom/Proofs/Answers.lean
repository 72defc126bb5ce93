import Mathlib.Logic.Relation
import WaitingRoom.Command.Response
import WaitingRoom.Proofs.Decoding
import WaitingRoom.Proofs.Reading
import WaitingRoom.Proofs.Runs

/-!
# What is answered to a file

The whole way from the bytes of a file to the exit code and the text on standard output, for people
who look for the first seat in sight.

* **`Sees`**, **`FollowsBySight`**: who sees whom on a plan, and which seats are taken next, both read
  off the marks of the plan. Deciding about all seats at once in the visible mode comes to the same
  (`Layout.Holds.followsBySight_iff`).
* **`Layout.picture`**, **`drawn`**: the marks of a layout, and a plan with somebody on the given
  seats. The first is the second for a layout that holds the plan (`Layout.Holds.picture_seated`),
  and it shows as many people as there are (`Layout.count_picture`).
* **`Layout.Holds.settle_visible`**: a plan comes to rest in a seating that follows itself and is
  reached from nobody seated.
* **`Command.run_visible`**: the answer to any file.
-/

namespace WaitingRoom

/-! ### Sight on a plan -/

/-- From `p` one sees the seat `q` of the plan: it lies in one of the eight directions, with nothing
but floor in between. -/
def Sees (rows : List (List Char)) (p q : Position) : Prop :=
  ∃ d n, 0 < n ∧ p.Ahead d n q ∧ markAt rows q = some 'L' ∧
    ∀ j, 0 < j → j < n → ∃ s, p.Ahead d j s ∧ markAt rows s = some '.'

open Classical in
/-- The places taken next by people who look for the first seat in sight: among the seats of the
plan a free one is taken when it sees nobody, and a taken one is kept when it sees fewer than five. -/
def FollowsBySight (rows : List (List Char)) (taken next : Finset Position) : Prop :=
  ∀ p, p ∈ next ↔ markAt rows p = some 'L' ∧
    if p ∈ taken then {q ∈ taken | Sees rows p q}.card < 5 else {q ∈ taken | Sees rows p q} = ∅

namespace Layout.Holds

variable {g : Layout} {rows : List (List Char)} {p q : Position} {X Y : Finset Position}

/-- Floor inside the walls is where the mark of floor is. -/
theorem floor_iff (hg : g.Holds rows) :
    p ∈ g ∧ g.isSeat p = false ↔ markAt rows p = some '.' := by
  rw [hg.mem_iff, ← Bool.not_eq_true, hg.isSeat_iff]
  constructor
  · rintro ⟨hsome, hseat⟩
    obtain ⟨c, hc⟩ := Option.isSome_iff_exists.1 hsome
    rcases hg.readable.mark_of_markAt hc with rfl | rfl
    · exact absurd hc hseat
    · exact hc
  · intro hfloor
    rw [hfloor]
    exact ⟨rfl, by decide⟩

/-- The visible mode sees in a layout what is in sight on its plan. -/
theorem mem_near_visible_iff (hg : g.Holds rows) : q ∈ Mode.visible.near g p ↔ Sees rows p q := by
  rw [Mode.mem_near, Mode.mem_neighbors_iff]
  refine exists_congr fun d => ?_
  rw [Mode.look, firstSeat?_eq_some_iff]
  refine exists_congr fun n => and_congr_right fun _ => and_congr_right fun _ => ?_
  rw [hg.isSeat_iff, ClearAhead]
  refine and_congr_right fun _ => forall_congr' fun j => ?_
  refine forall_congr' fun _ => forall_congr' fun _ => exists_congr fun s => ?_
  rw [← hg.floor_iff]
  exact and_left_comm

open Classical in
/-- The visible mode counts the people in sight. -/
theorem occupied_visible_seated (hg : g.Holds rows) (X : Finset Position) (p : Position) :
    Mode.visible.occupied (g.seated X) p = {q ∈ X | Sees rows p q}.card := by
  have hnear : Mode.visible.near (g.seated X) p = Mode.visible.near g p :=
    congrArg List.toFinset (Mode.neighbors_congr (g.sameFloor_seated X) .visible p)
  rw [Mode.occupied_eq_card, hnear]
  congr 1
  ext q
  rw [Finset.mem_inter, mem_takenPlaces, isTaken_seated, Bool.and_eq_true, decide_eq_true_iff,
    hg.mem_near_visible_iff, Finset.mem_filter, and_assoc, and_iff_right_iff_imp]
  rintro ⟨-, -, -, -, -, hseat, -⟩
  exact hg.isSeat_iff.2 hseat

/-- Deciding about all seats at once takes the places that follow by sight. -/
theorem followsBySight_iff (hg : g.Holds rows) :
    FollowsBySight rows X Y ↔ Y = g.synchronous 5 Mode.visible.occupied X := by
  rw [FollowsBySight, Finset.ext_iff]
  refine forall_congr' fun p => iff_congr Iff.rfl ?_
  rw [synchronous, Finset.mem_filter, mem_seatPlaces, hg.isSeat_iff, hg.occupied_visible_seated,
    not_le, Finset.card_eq_zero]

/-- Whoever is seated after some ticks is reached by sight from nobody seated. -/
theorem reflTransGen_iterate (hg : g.Holds rows) (k : Nat) :
    Relation.ReflTransGen (FollowsBySight rows) ∅
      ((g.synchronous 5 Mode.visible.occupied)^[k] ∅) := by
  induction k with
  | zero => exact .refl
  | succ k ih =>
    refine ih.tail (hg.followsBySight_iff.2 ?_)
    exact Function.iterate_succ_apply' _ k ∅

end Layout.Holds

/-! ### Pictures -/

/-- The plan with the mark of a taken seat at the given places. -/
def drawn (rows : List (List Char)) (taken : Finset Position) : List (List Char) :=
  rows.mapIdx fun i row => row.mapIdx fun j c => if ⟨i, j⟩ ∈ taken then '#' else c

/-- The text of some lines, each ended by a line feed. -/
def Text.unlines (rows : List (List Char)) : String :=
  String.ofList (rows.flatMap (· ++ ['\n']))

namespace Layout

variable {g : Layout} {rows : List (List Char)} {p : Position} {X : Finset Position}

/-- The marks of a layout, row by row. -/
def picture (g : Layout) : List (List Char) := (List.range g.rows).map g.renderRow

/-- The printed plan is its picture, line by line. -/
theorem render_eq (g : Layout) : g.render = Text.unlines g.picture := by
  rw [render, Text.unlines, picture, List.flatMap_map]

/-- The marks of a picture are those of the places in order. -/
theorem flatten_picture (g : Layout) :
    g.picture.flatten = g.positions.map fun p => (g.spotAt p).mark := by
  rw [picture, positions, List.map_flatMap, ← List.flatMap_def]
  refine congrArg (List.range g.rows).flatMap (funext fun row => ?_)
  rw [renderRow, List.map_map]
  rfl

/-- The people at places are counted place by place. -/
theorem countP_positions_isTaken (g : Layout) :
    g.positions.countP g.isTaken = g.takenPlaces.card := by
  have htaken : g.takenPlaces = (g.positions.filter g.isTaken).toFinset := by
    ext p
    simp [takenPlaces, places]
  rw [htaken, List.toFinset_card_of_nodup (g.nodup_positions.filter _),
    List.countP_eq_length_filter]

/-- A picture has the mark of a taken seat for everybody at a place. -/
theorem count_picture (g : Layout) : g.picture.flatten.count '#' = g.takenPlaces.card := by
  have hmark : ∀ s : Spot, (s.mark == '#') = s.isTaken := by
    intro s
    cases s <;> rfl
  rw [flatten_picture, List.count, List.countP_map, ← countP_positions_isTaken]
  simp only [Function.comp_def, hmark]
  rfl

namespace Holds

/-- A place of the plan with people on some seats has the mark of a taken seat or that of the plan. -/
theorem mark_seated (hg : g.Holds rows) (hX : X ⊆ g.seatPlaces) {c : Char}
    (hc : markAt rows p = some c) :
    ((g.seated X).spotAt p).mark = if p ∈ X then '#' else c := by
  have hspot : g.spotAt p = (Spot.ofMark? c).getD .floor := by
    rw [hg.spotAt_eq, hc]
    rfl
  rw [spotAt_seated]
  by_cases hp : p ∈ X
  · have hseat := mem_seatPlaces.1 (hX hp)
    rw [hg.isSeat_iff, hc, Option.some.injEq] at hseat
    rw [hspot, hseat, if_pos hp, decide_eq_true hp]
    rfl
  · rw [hspot, if_neg hp, decide_eq_false hp]
    rcases hg.readable.mark_of_markAt hc with rfl | rfl <;> rfl

/-- The picture of a plan with people on some seats. -/
theorem picture_seated (hg : g.Holds rows) (hX : X ⊆ g.seatPlaces) :
    (g.seated X).picture = drawn rows X := by
  apply List.ext_getElem
  · rw [picture, drawn, List.length_map, List.length_range, List.length_mapIdx, rows_seated, hg.rows]
  intro i hi hi'
  have hrow : i < rows.length := by rwa [drawn, List.length_mapIdx] at hi'
  have hcols : g.cols = rows[i].length := hg.cols_eq (List.getElem_mem hrow)
  simp only [picture, drawn, List.getElem_map, List.getElem_range, List.getElem_mapIdx]
  apply List.ext_getElem
  · rw [renderRow, List.length_map, List.length_range, List.length_mapIdx, cols_seated, hcols]
  intro j hj hj'
  have hcol : j < rows[i].length := by rwa [List.length_mapIdx] at hj'
  simp only [renderRow, List.getElem_map, List.getElem_range, List.getElem_mapIdx]
  apply hg.mark_seated hX
  simp [markAt, hrow, hcol]

/-- The people of a plan are seen in its picture. -/
theorem occupied_seated (hg : g.Holds rows) (hX : X ⊆ g.seatPlaces) :
    (g.seated X).occupied = (drawn rows X).flatten.count '#' := by
  rw [← hg.picture_seated hX, count_picture, occupied_eq, surplus_seated, hg.surplus_eq,
    List.countP_nil, Nat.add_zero]

end Holds

/-! ### Coming to rest -/

/-- A plan that was read is not in use. -/
theorem Holds.unused (hg : g.Holds rows) : g.Unused := by
  intro c hc
  rw [← Array.mem_toList_iff, hg.cells, List.mem_flatMap] at hc
  obtain ⟨row, -, hc⟩ := hc
  exact unused_of_mem_readableCells hc

/-- Any layout comes to rest in the visible mode, in a seating that follows itself and is reached
by ticks. -/
theorem exists_settle_visible (g : Layout) :
    ∃ k outcome events, g.settle .visible = some (outcome, events) ∧
      outcome.layout = g.seated ((g.synchronous 5 Mode.visible.occupied)^[k] g.takenPlaces) ∧
      g.synchronous 5 Mode.visible.occupied
          ((g.synchronous 5 Mode.visible.occupied)^[k] g.takenPlaces) =
        (g.synchronous 5 Mode.visible.occupied)^[k] g.takenPlaces := by
  have hquiet := Simulation.exists_quietAt_of_five_le .visible 5 false g le_rfl
  obtain ⟨run, hrun⟩ :=
    Option.isSome_iff_exists.1 ((Simulation.run_isSome_iff Mode.visible.rule g 0).2 hquiet)
  have htells := Simulation.isRunOf_of_runFor hrun
  have htaken : ∀ k, (Mode.visible.rule.generation g k).takenPlaces =
      (g.synchronous 5 Mode.visible.occupied)^[k] g.takenPlaces :=
    Rule.takenPlaces_generation_standard 5 Mode.visible.occupied false g
  have hrest := (Simulation.quietAt_start_iff Mode.visible.rule g run.ticks).1 htells.quiet
  refine ⟨run.ticks, _, _, congrArg (Option.map _) hrun, ?_, ?_⟩
  · show run.final.intoLayout = _
    -- without tallies a generation is stored as it is
    have hkept : run.final.current = Mode.visible.rule.generation g (run.ticks + 1) := by
      rw [htells.final]
      exact Simulation.current_after_start Mode.visible.rule g _
    rw [Simulation.intoLayout_eq_current, hkept, Rule.generation_eq_seated, hrest, htaken]
  · rw [← Function.iterate_succ_apply' (g.synchronous 5 Mode.visible.occupied), ← htaken, ← htaken,
      hrest]

/-- A plan comes to rest in a seating that follows itself by sight and is reached by sight from
nobody seated, and is shown so. -/
theorem Holds.settle_visible (hg : g.Holds rows) :
    ∃ taken outcome events, g.settle .visible = some (outcome, events) ∧
      Relation.ReflTransGen (FollowsBySight rows) ∅ taken ∧ FollowsBySight rows taken taken ∧
      outcome.layout.render = Text.unlines (drawn rows taken) ∧
      outcome.occupied = (drawn rows taken).flatten.count '#' := by
  obtain ⟨k, outcome, events, hsettle, hlayout, hfixed⟩ := g.exists_settle_visible
  rw [hg.unused.takenPlaces_eq] at hlayout hfixed
  have hseats : (g.synchronous 5 Mode.visible.occupied)^[k] ∅ ⊆ g.seatPlaces := by
    rw [← hfixed]
    exact Finset.filter_subset _ _
  refine ⟨_, outcome, events, hsettle, hg.reflTransGen_iterate k, ?_, ?_, ?_⟩
  · exact hg.followsBySight_iff.2 hfixed.symm
  · rw [hlayout, render_eq, hg.picture_seated hseats]
  · rw [Outcome.occupied, hlayout, hg.occupied_seated hseats]

/-! ### Reading a file -/

/-- Bytes are read when they are a text that is. -/
theorem ofBytes_eq_ok_iff {bytes : ByteArray} :
    ofBytes bytes = .ok g ↔ ∃ text, String.fromUTF8? bytes = some text ∧ ofText text = .ok g := by
  rw [ofBytes_eq]
  rcases htext : String.fromUTF8? bytes with _ | text
  · simp
  · rcases hplan : ofText text with e | plan <;> simp [hplan, Except.mapError]

/-- A file is read when it is a text of readable lines. -/
theorem exists_ofBytes_iff {bytes : ByteArray} :
    (∃ g, ofBytes bytes = .ok g) ↔
      ∃ text cols, String.fromUTF8? bytes = some text ∧ Readable (Text.charLines text) cols := by
  simp only [ofBytes_eq_ok_iff]
  constructor
  · rintro ⟨g, text, htext, hg⟩
    exact ⟨text, g.cols, htext, (holds_of_ofRows hg).1.readable⟩
  · rintro ⟨text, cols, htext, hreadable⟩
    obtain ⟨g, hg⟩ := exists_ofRows hreadable
    exact ⟨g, text, htext, hg⟩

end Layout

namespace Command

/-- What is printed of a picture: the number of marks of taken seats in it, alone or after the
picture itself and an empty line. -/
def printed (countOnly : Bool) (picture : List (List Char)) : String :=
  let people := picture.flatten.count '#'
  if countOnly then s!"{people}\n"
  else s!"{Text.unlines picture}\nOccupied seats: {people}\n"

/-- **The answer to a file in the visible mode.** Whatever the file holds, there is an answer. The
exit code is zero exactly when the bytes are a text whose lines have one length and no other marks
than those of seats and of floor; otherwise it is one, and nothing is printed. If it is zero, the
answer is printed of the plan with somebody on the seats of a seating that follows itself by sight
and is reached by sight from nobody seated. How a command line is understood does not matter, as long
as it is understood as a request in that mode. -/
theorem run_visible (understand : List String → Except Stop Request)
    (read : String → Id (Except ReadFailure ByteArray)) (filter : Log.Filter)
    (words : List String) (request : Request) (bytes : ByteArray)
    (hparse : understand words = .ok request) (hmode : request.mode = .visible)
    (hread : read request.path = .ok bytes) :
    ∃ response, runWith understand read filter words = some response ∧
      (response.exit = 0 ↔
        ∃ text cols, String.fromUTF8? bytes = some text ∧ Readable (Text.charLines text) cols) ∧
      (response.exit ≠ 0 → response.exit = 1 ∧ response.output = "") ∧
      ∀ text, String.fromUTF8? bytes = some text → response.exit = 0 →
        ∃ taken, Relation.ReflTransGen (FollowsBySight (Text.charLines text)) ∅ taken ∧
          FollowsBySight (Text.charLines text) taken taken ∧
          (∀ p ∈ taken, markAt (Text.charLines text) p = some 'L') ∧
          response.output = printed request.countOnly (drawn (Text.charLines text) taken) := by
  have hrun : runWith understand read filter words = respond filter request (.ok bytes) := by
    rw [runWith, hparse]
    simp only [hread]
    rfl
  rw [hrun, respond, Layout.load, hmode, ← Layout.exists_ofBytes_iff]
  cases hload : Layout.ofBytes bytes with
  | error e =>
    refine ⟨_, rfl, ?_, fun _ => ⟨rfl, rfl⟩, fun text _ hexit => absurd hexit Nat.one_ne_zero⟩
    exact iff_of_false Nat.one_ne_zero (by simp)
  | ok g =>
    obtain ⟨text, htext, hplan⟩ := Layout.ofBytes_eq_ok_iff.1 hload
    obtain ⟨taken, outcome, events, hsettle, hreached, hfixed, hrender, hoccupied⟩ :=
      (Layout.holds_of_ofRows hplan).1.settle_visible
    simp only [hsettle, Option.map_some]
    refine ⟨_, rfl, iff_of_true rfl ⟨g, rfl⟩, fun hexit => absurd rfl hexit, ?_⟩
    intro text' htext' _
    obtain rfl : text = text' := Option.some.inj (htext.symm.trans htext')
    refine ⟨taken, hreached, hfixed, fun p hp => ((hfixed p).1 hp).1, ?_⟩
    rw [Response.ofOutcome, printed, Outcome.text, hrender, hoccupied]
    rfl

/-- Three seats in two lines, the first ended by a carriage return and a line feed, the last by
nothing. -/
def threeSeats : String := "L.L\r\n.L."

/-- The three of them sit down at once and stay. -/
theorem run_visible_threeSeats :
    parse ["--mode=visible", "plan.txt"] = .ok ⟨"plan.txt", .visible, false⟩ ∧
      ∃ response taken, run (m := Id) (fun _ => .ok threeSeats.toByteArray) (.ofLevel .warn)
          ["--mode=visible", "plan.txt"] = some response ∧
        response.exit = 0 ∧
        FollowsBySight [['L', '.', 'L'], ['.', 'L', '.']] taken taken ∧
        response.output = printed false (drawn [['L', '.', 'L'], ['.', 'L', '.']] taken) ∧
        response.output = "#.#\n.#.\n\nOccupied seats: 3\n" := by
  have hparse : parse ["--mode=visible", "plan.txt"] = .ok ⟨"plan.txt", .visible, false⟩ := by
    cbv
  have hlines : Text.charLines threeSeats = [['L', '.', 'L'], ['.', 'L', '.']] := by
    decide +kernel
  have htext : String.fromUTF8? threeSeats.toByteArray = some threeSeats :=
    Text.fromUTF8?_eq_some_iff.2 (by rw [Text.toByteArray_eq])
  have hreadable : Readable (Text.charLines threeSeats) 3 := by
    rw [hlines]
    exact ⟨by simp, by simp⟩
  have hshown : (respond (.ofLevel .warn) ⟨"plan.txt", .visible, false⟩
      (.ok threeSeats.toByteArray)).map Response.output =
        some "#.#\n.#.\n\nOccupied seats: 3\n" := by
    decide +kernel
  obtain ⟨response, hrun, hexit, -, houtput⟩ := run_visible parse
    (fun _ => .ok threeSeats.toByteArray) (.ofLevel .warn) _ _ threeSeats.toByteArray hparse rfl rfl
  have hzero : response.exit = 0 := hexit.2 ⟨threeSeats, 3, htext, hreadable⟩
  obtain ⟨taken, -, hfixed, -, hprinted⟩ := houtput threeSeats htext hzero
  rw [hlines] at hfixed hprinted
  have hrespond : respond (.ofLevel .warn) ⟨"plan.txt", .visible, false⟩
      (.ok threeSeats.toByteArray) = some response := by
    rw [← hrun, runWith, hparse]
    rfl
  rw [hrespond, Option.map_some, Option.some.injEq] at hshown
  exact ⟨hparse, response, taken, hrun, hzero, hfixed, hprinted, hshown⟩

end Command

end WaitingRoom
