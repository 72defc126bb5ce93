import Mathlib.Order.Bounds.Defs
import WaitingRoom.Proofs.Likeness
import WaitingRoom.Proofs.Rest

/-!
# What a run returns

A run ticks until a tick changes nothing and then tells how it went. Here its answer is compared
with the ticks themselves.

* **`Run.IsRunOf`**: an answer tells the ticks of a simulation up to the first quiet one. There is
  one such answer at most (`Run.IsRunOf.unique`), and it is the one that a run gives
  (`Simulation.run_eq_some_iff`).
* **`Simulation.Reached`**: whatever ticks and runs make of a simulation. It is a number of ticks
  after the start (`Simulation.Reached.exists_after`).
* **`Mode.Stable`**: nobody wants to move. Layouts that follow themselves are stable
  (`Mode.stable_of_advance`).
* **`Simulation.run_reached`**: the answer of a run in full, and what running once more does.
-/

namespace WaitingRoom

/-! ### The ticks of a run -/

/-- The answer of a run tells the ticks of a simulation up to the first one that changes nothing. -/
structure Run.IsRunOf (run : Run) (s : Simulation) : Prop where
  /-- It has made one tick more than changed something. -/
  final : run.final = s.after (run.ticks + 1)
  /-- All ticks before the last one changed something. -/
  loud : ∀ i < run.ticks, (s.after i).tick.2 ≠ 0
  /-- The last one changed nothing. -/
  quiet : (s.after run.ticks).tick.2 = 0
  /-- Every tick is recorded with its number and its changes, in order. -/
  records : run.records = (List.range (run.ticks + 1)).map fun i =>
    { tick := s.ticks + i + 1, changed := (s.after i).tick.2 }

namespace Simulation

/-- Ticks are counted. -/
theorem ticks_after (s : Simulation) (k : Nat) : (s.after k).ticks = s.ticks + k := by
  induction k with
  | zero => rfl
  | succ k ih =>
    show (s.after k).ticks + 1 = s.ticks + (k + 1)
    rw [ih, Nat.add_assoc]

/-- The latest generation is in the buffer that so many ticks lead to. -/
theorem index_after (s : Simulation) (k : Nat) : (s.after k).index = (s.index + k) % 2 := by
  have hindex := s.index_lt
  induction k with
  | zero => exact (Nat.mod_eq_of_lt hindex).symm
  | succ k ih =>
    show 1 - (s.after k).index = (s.index + (k + 1)) % 2
    rw [ih]
    omega

/-- A tick that changes nothing is a run by itself. -/
theorem isRunOf_of_quiet {s : Simulation} (hquiet : s.tick.2 = 0) :
    Run.IsRunOf ⟨s.tick.1, 0, [⟨s.tick.1.ticks, s.tick.2⟩]⟩ s := by
  refine ⟨rfl, ?_, hquiet, rfl⟩
  intro i hi
  exact absurd hi (Nat.not_lt_zero i)

/-- A tick that changes something goes before the run that follows it. -/
theorem isRunOf_of_loud {s : Simulation} {run : Run} (hloud : s.tick.2 ≠ 0)
    (hrun : run.IsRunOf s.tick.1) :
    Run.IsRunOf
      { run with
        ticks := run.ticks + 1
        records := ⟨s.tick.1.ticks, s.tick.2⟩ :: run.records } s := by
  refine ⟨?_, ?_, ?_, ?_⟩
  · show run.final = s.after (run.ticks + 1 + 1)
    rw [hrun.final, after_tick]
  · intro i hi
    cases i with
    | zero => exact hloud
    | succ i =>
      rw [← after_tick]
      exact hrun.loud i (Nat.lt_of_succ_lt_succ hi)
  · show (s.after (run.ticks + 1)).tick.2 = 0
    rw [← after_tick]
    exact hrun.quiet
  · show _ :: run.records = _
    rw [List.range_succ_eq_map, List.map_cons, List.map_map, hrun.records]
    -- the later ticks are counted from the simulation after the first one
    refine congrArg (List.cons _) (List.map_congr_left fun i _ => ?_)
    show TickRecord.mk (s.ticks + 1 + i + 1) _ = TickRecord.mk (s.ticks + (i + 1) + 1) _
    rw [after_tick, Nat.add_assoc s.ticks 1 i, Nat.add_comm 1 i]

/-- A run makes a tick and goes on if that has changed something. -/
theorem runFor_succ (limit : Nat) (s : Simulation) :
    runFor (limit + 1) s =
      if s.tick.2 = 0 then some ⟨s.tick.1, 0, [⟨s.tick.1.ticks, s.tick.2⟩]⟩
      else (runFor limit s.tick.1).map fun run =>
        { run with ticks := run.ticks + 1, records := ⟨s.tick.1.ticks, s.tick.2⟩ :: run.records } :=
  rfl

/-- Whatever its limit, a run that has an answer tells its ticks. -/
theorem isRunOf_of_runFor {limit : Nat} {s : Simulation} {run : Run}
    (hrun : runFor limit s = some run) : run.IsRunOf s := by
  induction limit generalizing s run with
  | zero => cases hrun
  | succ limit ih =>
    rw [runFor_succ] at hrun
    by_cases hquiet : s.tick.2 = 0
    · rw [if_pos hquiet] at hrun
      cases hrun
      exact isRunOf_of_quiet hquiet
    · rw [if_neg hquiet] at hrun
      obtain ⟨rest, hrest, rfl⟩ := Option.map_eq_some_iff.1 hrun
      exact isRunOf_of_loud hquiet (ih hrest)

end Simulation

namespace Run.IsRunOf

variable {s : Simulation} {run run' : Run}

/-- The number of ticks that changed something is that of the first quiet one. -/
theorem isLeast (hrun : run.IsRunOf s) : IsLeast {k | s.QuietAt k} run.ticks := by
  refine ⟨hrun.quiet, ?_⟩
  intro k hk
  by_contra hlt
  exact hrun.loud k (not_le.1 hlt) hk

/-- Its number of ticks tells which buffer holds the latest generation. -/
theorem getElem?_buffers (hrun : run.IsRunOf s) :
    run.final.buffers[(s.index + (run.ticks + 1)) % 2]? = some run.final.current := by
  have hindex : run.final.index = (s.index + (run.ticks + 1)) % 2 := by
    rw [hrun.final, Simulation.index_after]
  rw [← hindex]
  exact run.final.getElem?_index

/-- The ticks of a simulation leave no choice of an answer. -/
theorem unique (hrun : run.IsRunOf s) (hrun' : run'.IsRunOf s) : run = run' := by
  have hticks : run.ticks = run'.ticks := hrun.isLeast.unique hrun'.isLeast
  have hfinal : run.final = run'.final := by rw [hrun.final, hrun'.final, hticks]
  have hrecords : run.records = run'.records := by rw [hrun.records, hrun'.records, hticks]
  obtain ⟨final, ticks, records⟩ := run
  obtain ⟨final', ticks', records'⟩ := run'
  simp only at hticks hfinal hrecords
  subst hticks hfinal hrecords
  rfl

end Run.IsRunOf

namespace Simulation

/-- The answer of a run is the one that tells its ticks. -/
theorem run_eq_some_iff (r : Rule) (g : Layout) (j : Nat) {run : Run} :
    ((start r g).after j).run = some run ↔ run.IsRunOf ((start r g).after j) := by
  constructor
  · exact isRunOf_of_runFor
  · intro hrun
    have hsome := (run_isSome_iff r g j).2 ⟨run.ticks, hrun.quiet⟩
    obtain ⟨answer, hanswer⟩ := Option.isSome_iff_exists.1 hsome
    rw [hanswer, (isRunOf_of_runFor hanswer).unique hrun]

/-! ### Simulations in use -/

/-- What ticks and runs, in any order, make of a simulation that was started on a layout. -/
inductive Reached (r : Rule) (g : Layout) : Simulation → Prop
  | start : Reached r g (start r g)
  | tick {s : Simulation} (hs : Reached r g s) : Reached r g s.tick.1
  | run {s : Simulation} {run : Run} (hs : Reached r g s) (hrun : s.run = some run) :
    Reached r g run.final

/-- A simulation in use has made a number of ticks. -/
theorem Reached.exists_after {r : Rule} {g : Layout} {s : Simulation} (hs : Reached r g s) :
    ∃ k, s = (Simulation.start r g).after k := by
  induction hs with
  | start => exact ⟨0, rfl⟩
  | tick _ ih =>
    obtain ⟨k, rfl⟩ := ih
    exact ⟨k + 1, rfl⟩
  | @run _ run _ hrun ih =>
    obtain ⟨k, rfl⟩ := ih
    refine ⟨k + (run.ticks + 1), ?_⟩
    rw [(isRunOf_of_runFor hrun).final, ← after_add]

/-- The people of the latest generation are those of the generation reached. -/
theorem takenPlaces_current_after (r : Rule) (g : Layout) (k : Nat) :
    ((start r g).after k).current.takenPlaces = (r.generation g k).takenPlaces := by
  rw [current_after_start, r.takenPlaces_kept]

/-- Two moments of a simulation have the same latest generation when the same people are seated. -/
theorem current_after_eq_iff (r : Rule) (g : Layout) (i j : Nat) :
    ((start r g).after i).current = ((start r g).after j).current ↔
      (r.generation g i).takenPlaces = (r.generation g j).takenPlaces := by
  constructor
  · intro heq
    rw [← takenPlaces_current_after, ← takenPlaces_current_after, heq]
  · intro htaken
    rw [current_after_start, current_after_start, (r.generation_eq_iff g i j).2 htaken]

/-- A tick is quiet when it leaves the latest generation as it was, tallies included. -/
theorem quietAt_after_iff_current (r : Rule) (g : Layout) (j k : Nat) :
    ((start r g).after j).QuietAt k ↔
      (((start r g).after j).after (k + 1)).current = (((start r g).after j).after k).current := by
  rw [quietAt_after, quietAt_start_iff, ← after_add, ← after_add, current_after_eq_iff]
  rfl

/-- After a quiet tick the next one changes nothing either, in neither generation. -/
theorem tick_of_quietAt {r : Rule} {g : Layout} {k : Nat} (hquiet : (start r g).QuietAt k) :
    ((start r g).after (k + 1)).tick.2 = 0 ∧
      ((start r g).after (k + 1)).Idled ((start r g).after (k + 1)).tick.1 := by
  have hrest : r.generation g (k + 1) = r.generation g k :=
    (r.generation_eq_iff g (k + 1) k).2 ((quietAt_start_iff r g k).1 hquiet)
  have hnext : r.generation g (k + 2) = r.generation g (k + 1) := congrArg r.advance hrest
  constructor
  · show (start r g).QuietAt (k + 1)
    rw [quietAt_start_iff, hnext]
  · rw [tick_after_start, after_start, hnext, Nat.add_sub_cancel, hrest]
    exact idled_stored r _ _ (k + 1)

/-- A simulation whose next tick is quiet gives the shortest answer. -/
theorem run_of_quiet {s : Simulation} (hquiet : s.tick.2 = 0) :
    s.run = some { final := s.tick.1, ticks := 0, records := [⟨s.ticks + 1, 0⟩] } := by
  -- a run is allowed one tick at least
  obtain ⟨limit, hlimit⟩ := Nat.exists_eq_add_one_of_ne_zero
    (Nat.pos_iff_ne_zero.1 (Nat.two_pow_pos s.current.seats))
  show runFor (2 ^ s.current.seats) s = _
  rw [hlimit, runFor_succ, if_pos hquiet, hquiet]
  rfl

end Simulation

/-! ### Rooms in which nobody wants to move -/

namespace Mode

/-- Nobody wants to move: whoever is free to sit down has somebody near, and whoever sits has fewer
near than it takes to leave. -/
structure Stable (m : Mode) (g : Layout) : Prop where
  /-- A free seat has somebody near. -/
  free : ∀ p, g.isSeat p = true → g.isTaken p = false → 0 < m.occupied g p
  /-- A taken seat has fewer near than the threshold. -/
  taken : ∀ p, g.isTaken p = true → m.occupied g p < m.threshold

variable {m : Mode} {g h : Layout}

/-- The rule of a mode counts people. -/
theorem countsPeople_rule (m : Mode) : m.rule.CountsPeople :=
  Rule.countsPeople_of_occupied m rfl

/-- The rule of a mode goes by its own count, with tallies or without. -/
theorem fresh_rule (m : Mode) (g : Layout) (p : Position) : m.rule.fresh g p = m.occupied g p := by
  cases m <;> rfl

/-- What looks alike is as stable. -/
theorem Stable.congr (hgh : g.Alike h) (hg : m.Stable g) : m.Stable h := by
  refine ⟨fun p hseat hfree => ?_, fun p htaken => ?_⟩
  · rw [← occupied_congr hgh]
    exact hg.free p (by rwa [hgh.sameFloor.isSeat]) (by rwa [hgh.isTaken])
  · rw [← occupied_congr hgh]
    exact hg.taken p (by rwa [hgh.isTaken])

/-- A generation that is followed by the same people is stable. -/
theorem stable_of_advance (hrest : (m.rule.advance g).takenPlaces = g.takenPlaces) :
    m.Stable g := by
  have hnext : ∀ p, g.isTaken p = (g.isSeat p && m.rule.next (g.isTaken p) (m.occupied g p)) := by
    intro p
    have hp := m.rule.isTaken_advance g p
    rwa [(Layout.alike_of_takenPlaces (m.rule.sameFloor_advance g) hrest).isTaken, fresh_rule] at hp
  refine ⟨fun p hseat hfree => ?_, fun p htaken => ?_⟩
  · have hp := hnext p
    rw [hfree, hseat, Bool.true_and] at hp
    apply Nat.pos_of_ne_zero
    intro hzero
    rw [hzero] at hp
    cases hp
  · have hp := hnext p
    rw [htaken, Layout.isSeat_of_isTaken htaken, Bool.true_and] at hp
    exact of_decide_eq_true hp.symm

end Mode

namespace Simulation

/-- Where a tick was quiet the room is stable. -/
theorem stable_of_quietAt {m : Mode} {g : Layout} {k : Nat}
    (hquiet : (start m.rule g).QuietAt k) : m.Stable ((start m.rule g).after (k + 1)).current := by
  rw [quietAt_start_iff] at hquiet
  have hrest : m.Stable (m.rule.generation g k) := Mode.stable_of_advance hquiet
  rw [current_after_start]
  apply hrest.congr
  rw [← (m.rule.generation_eq_iff g (k + 1) k).2 hquiet]
  exact (m.rule.alike_kept _).symm

/-- After a quiet tick a new simulation of what is left has nothing to do. -/
theorem tick_restart_of_quietAt {r : Rule} {g : Layout} {k : Nat}
    (hquiet : (start r g).QuietAt k) :
    (start r ((start r g).after (k + 1)).intoLayout).tick.2 = 0 ∧
      (start r ((start r g).after (k + 1)).intoLayout).tick.1.intoLayout =
        ((start r g).after (k + 1)).intoLayout := by
  have hrest : ((start r g).after (k + 2)).current = ((start r g).after (k + 1)).current :=
    (tick_of_quietAt hquiet).2.current
  have hstays : ((start r ((start r g).after (k + 1)).intoLayout).after 1).current =
      ((start r g).after (k + 1)).current := (current_after_restart r g (k + 1) 1).trans hrest
  constructor
  · apply (quietAt_after_iff_current r _ 0 0).2
    exact hstays.trans (current_after_restart r g (k + 1) 0).symm
  · exact (intoLayout_eq_current _).trans (hstays.trans (intoLayout_eq_current _).symm)

/-- **What a run returns.** From any state that ticks and runs lead to, a run has an answer exactly
when some tick is quiet. Then it tells its ticks: `run.ticks` of them change something and one more
does not, the records have consecutive numbers and the changes in order, and `run.ticks` is the
first moment at which a tick leaves the latest generation as it is. The buffer that holds the latest
generation is known from the number of ticks, and it is the one that is handed out. The room is
stable then, and a second run makes one tick that only exchanges the buffers. A room that is reported
at rest is in the buffer that its ticks lead to, and settles at once, as it is. -/
theorem run_reached (m : Mode) (g : Layout) :
    (∀ s, Reached m.rule g s →
      (s.run.isSome = true ↔ ∃ k, (s.after k).tick.2 = 0) ∧
      ∀ run, s.run = some run →
        run.IsRunOf s ∧ run.final.ticks = s.ticks + (run.ticks + 1) ∧
        run.final.buffers[(s.index + (run.ticks + 1)) % 2]? = some run.final.current ∧
        run.final.intoLayout = run.final.current ∧
        IsLeast {k | (s.after (k + 1)).current = (s.after k).current} run.ticks ∧
        m.Stable run.final.current ∧
        ∃ again, run.final.run = some ⟨again, 0, [⟨run.final.ticks + 1, 0⟩]⟩ ∧
          run.final.Idled again) ∧
    ∀ outcome events, g.settle m = some (outcome, events) →
      (∃ run, (start m.rule g).run = some run ∧ outcome.ticks = run.ticks ∧
        run.final.buffers[(outcome.ticks + 1) % 2]? = some outcome.layout) ∧
      outcome.layout.settle m = some
        ({ outcome with ticks := 0 }, [.tickDone ⟨1, 0⟩, .settled m 0 outcome.occupied]) := by
  constructor
  · intro s hs
    obtain ⟨j, rfl⟩ := hs.exists_after
    refine ⟨run_isSome_iff m.rule g j, ?_⟩
    intro run hrun
    have htells : run.IsRunOf ((start m.rule g).after j) := isRunOf_of_runFor hrun
    have hquiet : (start m.rule g).QuietAt (j + run.ticks) :=
      (quietAt_after _ j run.ticks).1 htells.quiet
    have hfinal : run.final = (start m.rule g).after (j + run.ticks + 1) := by
      rw [htells.final, ← after_add, Nat.add_assoc]
    obtain ⟨hnext, hidled⟩ := tick_of_quietAt hquiet
    rw [← hfinal] at hnext hidled
    refine ⟨htells, ?_, htells.getElem?_buffers, intoLayout_eq_current _, ?_, ?_, ?_⟩
    · rw [htells.final, ticks_after]
    · simp only [← quietAt_after_iff_current]
      exact htells.isLeast
    · rw [hfinal]
      exact stable_of_quietAt hquiet
    · exact ⟨run.final.tick.1, run_of_quiet hnext, hidled⟩
  · intro outcome events hsettle
    obtain ⟨run, hrun, heq⟩ := Option.map_eq_some_iff.1 hsettle
    cases heq
    have htells : run.IsRunOf (start m.rule g) := isRunOf_of_runFor hrun
    obtain ⟨hquiet, hsame⟩ := tick_restart_of_quietAt htells.quiet
    rw [← htells.final] at hquiet hsame
    refine ⟨⟨run, hrun, rfl, ?_⟩, ?_⟩
    · have hbuffer := htells.getElem?_buffers
      rw [index_start, Nat.zero_add] at hbuffer
      show run.final.buffers[(run.ticks + 1) % 2]? = some run.final.intoLayout
      rw [intoLayout_eq_current]
      exact hbuffer
    · rw [Layout.settle, run_of_quiet hquiet, Option.map_some, hsame]
      rfl

/-- A square of three by three seats. -/
def square : Layout :=
  ((({} : Builder).push ['L', 'L', 'L']).push ['L', 'L', 'L']).push ['L', 'L', 'L'] |>.build

/-- In the square all sit down, and all but the corners leave again. One tick after the start a run
has one tick to make that changes something, and ends where it began, in the second buffer. -/
theorem run_reached_square :
    ∃ run outcome events, (start Mode.adjacent.rule square).tick.1.run = some run ∧ run.ticks = 1 ∧
      run.IsRunOf (start Mode.adjacent.rule square).tick.1 ∧
      run.final.buffers[1]? = some run.final.current ∧
      Mode.adjacent.Stable run.final.current ∧
      square.settle .adjacent = some (outcome, events) ∧ outcome.ticks = 2 ∧
      outcome.layout.settle .adjacent = some
        ({ outcome with ticks := 0 },
          [.tickDone ⟨1, 0⟩, .settled .adjacent 0 outcome.occupied]) := by
  have hticks : (start Mode.adjacent.rule square).tick.1.run.map Run.ticks = some 1 := by
    decide +kernel
  have hsettle : (square.settle .adjacent).map (fun answer => answer.1.ticks) = some 2 := by
    decide +kernel
  obtain ⟨run, hrun, hone⟩ := Option.map_eq_some_iff.1 hticks
  obtain ⟨⟨outcome, events⟩, houtcome, htwo⟩ := Option.map_eq_some_iff.1 hsettle
  obtain ⟨htells, -, hbuffer, -, -, hstable, -⟩ :=
    ((run_reached .adjacent square).1 _ (.tick .start)).2 run hrun
  rw [hone, index_tick, index_start] at hbuffer
  exact ⟨run, outcome, events, hrun, hone, htells, hbuffer, hstable, houtcome, htwo,
    ((run_reached .adjacent square).2 outcome events houtcome).2⟩

end Simulation

end WaitingRoom
