import WaitingRoom.Proofs.Plans
import WaitingRoom.Proofs.Runs

/-!
# What can be seen of a simulation

A simulation holds more than it shows: the generation before, tallies that were brought along, the
number of ticks made. None of it has a say in what is seen later.

* **`Simulation.Action`**, **`Simulation.play`**: ticks and runs, one after another, and what is
  seen of each: its answer, the changes of its ticks, the printed plan, the number of taken seats
  and, under a tracked rule, the counts kept at all places.
* **`Simulation.tick_congr`**, **`Simulation.act_congr`**, **`Simulation.glimpse_congr`**: two
  simulations whose generations look alike change as many seats, make as many ticks in a run and
  show the same.
* **`Simulation.play_of_alike`**: so they show the same for ever.
-/

namespace WaitingRoom

/-- What is seen after something was asked of a simulation. -/
structure Glimpse where
  /-- The number returned: the changes of a tick, or the ticks of a run that changed something. -/
  answer : Nat
  /-- The changes of all ticks made for it. -/
  changes : List Nat
  /-- The printed plan. -/
  text : String
  /-- The number of taken seats. -/
  occupied : Nat
  /-- The counts kept at all places, if the rule keeps any. -/
  counts : Option (List (List Nat))
deriving DecidableEq, Repr

namespace Simulation

/-- What can be asked of a simulation. -/
inductive Action where
  /-- One tick. -/
  | tick
  /-- Ticks until one changes nothing. -/
  | run
deriving DecidableEq, Repr

/-- The simulation after an action, with the number returned and the changes of all its ticks;
nothing if it is a run that never ends. -/
def act (s : Simulation) : Action → Option (Simulation × Nat × List Nat)
  | .tick => some (s.tick.1, s.tick.2, [s.tick.2])
  | .run => s.run.map fun run => (run.final, run.ticks, run.records.map TickRecord.changed)

/-- What is seen of a simulation that has returned a number. -/
def glimpse (s : Simulation) (answer : Nat) (changes : List Nat) : Glimpse where
  answer := answer
  changes := changes
  text := s.current.render
  occupied := s.current.occupied
  counts := if s.rule.tracked then some s.current.counts else none

/-- What is seen of actions, one after another; nothing if one of them never ends. -/
def play : Simulation → List Action → Option (List Glimpse)
  | _, [] => some []
  | s, action :: actions =>
    (s.act action).bind fun (next, answer, changes) =>
      (next.play actions).map (next.glimpse answer changes :: ·)

section

variable {r : Rule} {g h : Layout} {j k : Nat}

/-- Moments at which simulations show the same are moments of generations that look alike. -/
theorem alike_current_iff :
    ((start r g).after j).current.Alike ((start r h).after k).current ↔
      (r.generation g j).Alike (r.generation h k) := by
  rw [current_after_start, current_after_start]
  constructor
  · intro halike
    exact (r.alike_kept _).symm.trans (halike.trans (r.alike_kept _))
  · intro halike
    exact (r.alike_kept _).trans (halike.trans (r.alike_kept _).symm)

/-- Generations that look alike go on looking alike. -/
theorem alike_generation_add (hr : r.CountsPeople)
    (halike : (r.generation g j).Alike (r.generation h k)) (n : Nat) :
    (r.generation g (j + n)).Alike (r.generation h (k + n)) := by
  rw [r.generation_add, r.generation_add]
  exact Rule.generation_congr hr halike n

/-- Ticks at moments that look alike change as many seats. -/
theorem tick_congr (hr : r.CountsPeople) (halike : (r.generation g j).Alike (r.generation h k)) :
    ((start r g).after j).tick.2 = ((start r h).after k).tick.2 := by
  have hnext := alike_generation_add hr halike 1
  have hpositions : g.positions = h.positions := by
    rw [← (r.sameFloor_generation g j).positions, ← (r.sameFloor_generation h k).positions]
    exact halike.sameFloor.positions
  rw [tick_after_start, tick_after_start, hpositions, hnext.isTaken, halike.isTaken]

/-- From moments that look alike, runs make the same number of ticks with the same changes. -/
theorem isRunOf_congr (hr : r.CountsPeople) (halike : (r.generation g j).Alike (r.generation h k))
    {run : Run} (hrun : run.IsRunOf ((start r g).after j)) :
    ∃ run' : Run, run'.IsRunOf ((start r h).after k) ∧ run'.ticks = run.ticks ∧
      run'.records.map TickRecord.changed = run.records.map TickRecord.changed := by
  have hticks : ∀ i,
      (((start r h).after k).after i).tick.2 = (((start r g).after j).after i).tick.2 := by
    intro i
    rw [← after_add, ← after_add]
    exact (tick_congr hr (alike_generation_add hr halike i)).symm
  let records : List TickRecord := (List.range (run.ticks + 1)).map fun i =>
    { tick := ((start r h).after k).ticks + i + 1
      changed := (((start r h).after k).after i).tick.2 }
  refine ⟨⟨((start r h).after k).after (run.ticks + 1), run.ticks, records⟩,
    ⟨rfl, ?_, ?_, rfl⟩, rfl, ?_⟩
  · intro i hi
    rw [hticks]
    exact hrun.loud i hi
  · rw [hticks]
    exact hrun.quiet
  · rw [hrun.records, List.map_map, List.map_map]
    exact List.map_congr_left fun i _ => hticks i

/-- A run that never ends does not end from a moment that looks alike either. -/
theorem run_eq_none_congr (hr : r.CountsPeople)
    (halike : (r.generation g j).Alike (r.generation h k))
    (hrun : ((start r g).after j).run = none) : ((start r h).after k).run = none := by
  rw [Option.eq_none_iff_forall_ne_some]
  intro run' hrun'
  obtain ⟨run, htells, -⟩ := isRunOf_congr hr halike.symm ((run_eq_some_iff r h k).1 hrun')
  rw [(run_eq_some_iff r g j).2 htells] at hrun
  cases hrun

/-- An action makes as many ticks at moments that look alike, with the same answer, or it never ends
at either. -/
theorem act_congr (hr : r.CountsPeople) (halike : (r.generation g j).Alike (r.generation h k))
    (action : Action) :
    (((start r g).after j).act action = none ∧ ((start r h).after k).act action = none) ∨
      ∃ n answer changes,
        ((start r g).after j).act action = some ((start r g).after (j + n), answer, changes) ∧
          ((start r h).after k).act action = some ((start r h).after (k + n), answer, changes) := by
  cases action with
  | tick =>
    right
    refine ⟨1, ((start r g).after j).tick.2, [((start r g).after j).tick.2], rfl, ?_⟩
    rw [tick_congr hr halike]
    rfl
  | run =>
    rcases hrun : ((start r g).after j).run with _ | run
    · left
      rw [act, act, hrun, run_eq_none_congr hr halike hrun]
      exact ⟨rfl, rfl⟩
    · right
      have htells := (run_eq_some_iff r g j).1 hrun
      obtain ⟨run', htells', hticks, hchanges⟩ := isRunOf_congr hr halike htells
      refine ⟨run.ticks + 1, run.ticks, run.records.map TickRecord.changed, ?_, ?_⟩
      · rw [act, hrun, Option.map_some, htells.final, ← after_add]
      · rw [act, (run_eq_some_iff r h k).2 htells', Option.map_some, htells'.final, hticks,
          hchanges, ← after_add]

/-- What a simulation leaves behind is again a layout to start on. -/
theorem built_current_after (hg : g.Built) (k : Nat) : ((start r g).after k).current.Built := by
  have hgeneration : (r.generation g k).Built := by
    rw [r.generation_eq_seated]
    exact hg.seated _
  rw [current_after_start]
  show (if r.tracked then _ else _ : Layout).Built
  split
  · exact hgeneration.recount
  · exact hgeneration

/-- At any moment the number of taken seats is that of the taken places. -/
theorem occupied_current_after (hg : g.Built) (k : Nat) :
    ((start r g).after k).current.occupied = (r.generation g k).takenPlaces.card := by
  rw [(built_current_after hg k).occupied_eq_card, takenPlaces_current_after]

/-- Moments that look alike show the same. -/
theorem glimpse_congr (hg : g.Built) (hh : h.Built)
    (halike : (r.generation g j).Alike (r.generation h k)) (answer : Nat) (changes : List Nat) :
    ((start r g).after j).glimpse answer changes =
      ((start r h).after k).glimpse answer changes := by
  have hcurrent := alike_current_iff.2 halike
  have hoccupied : ((start r g).after j).current.occupied =
      ((start r h).after k).current.occupied := by
    rw [occupied_current_after hg, occupied_current_after hh, halike.takenPlaces]
  have hcounts : r.tracked = true →
      ((start r g).after j).current.counts = ((start r h).after k).current.counts := by
    intro htracked
    rw [Layout.counts, Layout.counts, hcurrent.rows, hcurrent.cols, current_after_start,
      current_after_start]
    simp only [Rule.cached_kept_congr htracked halike]
  have hrule : ∀ g k, ((start r g).after k).rule = r := by
    intro g k
    rw [after_start, rule_stored]
  rw [glimpse, glimpse, hcurrent.render, hoccupied, hrule, hrule]
  -- without tracking the tallies may differ, and nobody looks at them
  cases htracked : r.tracked with
  | true => rw [hcounts htracked]
  | false => rfl

/-- Moments that look alike show the same in all that follows. -/
theorem play_congr (hr : r.CountsPeople) (hg : g.Built) (hh : h.Built)
    (halike : (r.generation g j).Alike (r.generation h k)) (actions : List Action) :
    ((start r g).after j).play actions = ((start r h).after k).play actions := by
  induction actions generalizing j k with
  | nil => rfl
  | cons action actions ih =>
    rw [play, play]
    rcases act_congr hr halike action with ⟨hact, hact'⟩ | ⟨n, answer, changes, hact, hact'⟩
    · rw [hact, hact']
    · have hnext := alike_generation_add hr halike n
      rw [hact, hact']
      show Option.map _ (((start r g).after (j + n)).play actions) = Option.map _ _
      rw [ih hnext, glimpse_congr hg hh hnext]

end

/-- **A simulation hides nothing that matters.** Take two simulations under one rule that counts
people, each some ticks after its start on a layout built from rows and changed since, whatever
tallies it brought along. If their latest generations look alike, all ticks and runs to come show
the same: changes, answers, printed plans, numbers of taken seats and kept counts. It does not matter
how many ticks each has made, in which buffer its latest generation is and what the other one
holds. And a new simulation of the layout that one leaves, taken from whichever buffer, goes on
exactly as the old one would. -/
theorem play_of_alike {r : Rule} (hr : r.CountsPeople) {g h : Layout} (hg : g.Built) (hh : h.Built)
    {j k : Nat} (halike : ((start r g).after j).current.Alike ((start r h).after k).current) :
    (∀ actions, ((start r g).after j).play actions = ((start r h).after k).play actions) ∧
      ∀ i n, ((start r ((start r g).after i).intoLayout).after n).current =
        ((start r g).after (i + n)).current := by
  refine ⟨?_, current_after_restart r g⟩
  intro actions
  exact play_congr hr hg hh (alike_current_iff.1 halike) actions

/-- A bench of two on which both sit from the start, with a surplus seat and a wrong tally. -/
def fullBench : Layout :=
  let built := ([['L', 'L'], ['L', 'x']].foldl Builder.push {}).build
  ((built.occupy ⟨0, 0⟩ true).occupy ⟨0, 1⟩ true).modify ⟨0, 1⟩ (Cell.credit (-5))

/-- A bench of two on which nobody sits. -/
def emptyBench : Layout := ([['L', 'L']].foldl Builder.push {}).build

/-- The full bench as people who look further leave it: the wrong tally is still there. -/
def wornBench : Layout := ((start Mode.visible.rule fullBench).after 3).intoLayout

/-- One tick after its start the empty bench goes on like the worn one two ticks after its own. The
latest generations are in different buffers. -/
theorem play_benches :
    wornBench.Built ∧ emptyBench.Built ∧ wornBench.tallyAt ⟨0, 1⟩ = -5 ∧
      ((start Mode.adjacent.rule wornBench).after 2).index = 0 ∧
      ((start Mode.adjacent.rule emptyBench).after 1).index = 1 ∧
      ((start Mode.adjacent.rule wornBench).after 2).current.Alike
        ((start Mode.adjacent.rule emptyBench).after 1).current ∧
      ((start Mode.adjacent.rule wornBench).after 2).play [.tick, .run] =
        ((start Mode.adjacent.rule emptyBench).after 1).play [.tick, .run] := by
  have hfull : fullBench.Built := (((Layout.Built.build _).modify _ _).modify _ _).modify _ _
  have hworn : wornBench.Built := by
    rw [wornBench, intoLayout_eq_current]
    exact built_current_after hfull 3
  have hempty : emptyBench.Built := .build _
  have halike : ((start Mode.adjacent.rule wornBench).after 2).current.Alike
      ((start Mode.adjacent.rule emptyBench).after 1).current := by decide +kernel
  exact ⟨hworn, hempty, by decide +kernel, rfl, rfl, halike,
    (play_of_alike Mode.adjacent.countsPeople_rule hworn hempty halike).1 _⟩

end Simulation

end WaitingRoom
