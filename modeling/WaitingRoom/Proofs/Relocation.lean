import WaitingRoom.Proofs.Reading
import WaitingRoom.Proofs.Runs

/-!
# Rooms moved on the plane

A room may be found again in another one, its places moved and its directions turned, with nothing
but floor around. What happens in the one happens in the other.

* **`Relocation`**: a way to move places and to turn directions with them.
* **`Layout.Relocated`**: a room is found again in another one. The same people are near
  (`Layout.Relocated.occupied_move`), so the next generation is found again in the next generation
  (`Layout.Relocated.advance`), and every generation in the generation of the same number
  (`Layout.Relocated.generation`), stored as it is stored (`Layout.Relocated.kept`).
* **`Simulation.run_of_ticks`**: simulations whose ticks always change as many seats run alike.
* **`Layout.Relocated.settle`**: the two rooms come to rest together or not at all, after the same
  ticks.
-/

namespace WaitingRoom

/-- A way to move the places of a plane, and to turn the directions with them. No two places become
one, and no direction is out of use. -/
structure Relocation where
  /-- Where a place is moved. -/
  move : Position → Position
  /-- Where a direction is turned. -/
  turn : Direction → Direction
  /-- Places stay apart. -/
  move_injective : Function.Injective move
  /-- Every direction is one that was turned. -/
  turn_surjective : Function.Surjective turn

namespace Layout

variable {g g' h h' : Layout} {t : Relocation} {p q : Position} {d : Direction} {n : Nat} {m : Mode}

/-- The room `g` is found again in `g'`: each place has its cell at the moved place, what lies ahead
lies ahead in the turned direction, and there is no other seat. -/
structure Relocated (t : Relocation) (g g' : Layout) : Prop where
  /-- The cell of a place, tally included. -/
  cell : ∀ p ∈ g, g'.cell? (t.move p) = g.cell? p
  /-- As many steps ahead. -/
  ahead : ∀ p ∈ g, ∀ q ∈ g, ∀ d n, (t.move p).Ahead (t.turn d) n (t.move q) ↔ p.Ahead d n q
  /-- Every seat is a moved place. -/
  seat : ∀ q, g'.isSeat q = true → ∃ p ∈ g, t.move p = q

namespace Relocated

/-! ### What is seen after a move -/

/-- A place is moved to a place. -/
theorem mem (hg : Relocated t g g') (hp : p ∈ g) : t.move p ∈ g' := by
  rw [← isSome_cell?, hg.cell p hp, isSome_cell?]
  exact hp

/-- What stands at a place stands at the moved place. -/
theorem spotAt (hg : Relocated t g g') (hp : p ∈ g) : g'.spotAt (t.move p) = g.spotAt p := by
  unfold Layout.spotAt
  rw [hg.cell p hp]

/-- Seats are moved to seats. -/
theorem isSeat (hg : Relocated t g g') (hp : p ∈ g) : g'.isSeat (t.move p) = g.isSeat p := by
  rw [Layout.isSeat, hg.spotAt hp, Layout.isSeat]

/-- People are moved with their seats. -/
theorem isTaken (hg : Relocated t g g') (hp : p ∈ g) : g'.isTaken (t.move p) = g.isTaken p := by
  rw [Layout.isTaken, hg.spotAt hp, Layout.isTaken]

/-- The people are moved with their seats. -/
theorem takenPlaces (hg : Relocated t g g') : g'.takenPlaces = g.takenPlaces.image t.move := by
  ext q
  rw [mem_takenPlaces, Finset.mem_image]
  constructor
  · intro hq
    obtain ⟨p, hp, rfl⟩ := hg.seat q (isSeat_of_isTaken hq)
    refine ⟨p, ?_, rfl⟩
    rwa [mem_takenPlaces, ← hg.isTaken hp]
  · rintro ⟨p, hp, rfl⟩
    rw [mem_takenPlaces] at hp
    rwa [hg.isTaken (mem_of_isSeat (isSeat_of_isTaken hp))]

/-- A way between two places is clear when it was clear before the move. -/
theorem clearAhead_iff (hg : Relocated t g g') (hp : p ∈ g) (hq : q ∈ g) (hahead : p.Ahead d n q) :
    g'.ClearAhead (t.move p) (t.turn d) n ↔ g.ClearAhead p d n := by
  -- the place on the way is inside the room, so its image is the place on the moved way
  have hway : ∀ j < n, ∃ s ∈ g, p.Ahead d j s ∧ (t.move p).Ahead (t.turn d) j (t.move s) := by
    intro j hj
    obtain ⟨s, hs, hahead'⟩ := exists_mem_ahead hp hq hahead hj.le
    exact ⟨s, hs, hahead', (hg.ahead p hp s hs d j).2 hahead'⟩
  refine forall_congr' fun j => forall_congr' fun _ => forall_congr' fun hj => ?_
  obtain ⟨s, hs, hold, hnew⟩ := hway j hj
  constructor
  · rintro ⟨s', -, hs', hfloor⟩
    rw [← hnew.unique hs', hg.isSeat hs] at hfloor
    exact ⟨s, hs, hold, hfloor⟩
  · rintro ⟨s', hmem, hs', hfloor⟩
    rw [← hold.unique hs', ← hg.isSeat hs] at hfloor
    exact ⟨t.move s, hg.mem hs, hnew, hfloor⟩

/-- A place sees in the turned direction what it saw before the move. -/
theorem look_iff (hg : Relocated t g g') (hp : p ∈ g) (hq : q ∈ g) :
    m.look g' (t.move p) (t.turn d) = some (t.move q) ↔ m.look g p d = some q := by
  cases m with
  | adjacent =>
    rw [Mode.look_adjacent_eq_some_iff, Mode.look_adjacent_eq_some_iff, hg.ahead p hp q hq]
    exact and_congr_right fun _ => iff_of_true (hg.mem hq) hq
  | visible =>
    rw [Mode.look, Mode.look, firstSeat?_eq_some_iff, firstSeat?_eq_some_iff]
    refine exists_congr fun n => and_congr_right fun _ => ?_
    rw [hg.ahead p hp q hq, hg.isSeat hq]
    refine and_congr_right fun hahead => and_congr_right fun _ => ?_
    exact hg.clearAhead_iff hp hq hahead

/-- Those near are moved to those near. -/
theorem mem_near_iff (hg : Relocated t g g') (hp : p ∈ g) (hq : q ∈ g) :
    t.move q ∈ m.near g' (t.move p) ↔ q ∈ m.near g p := by
  rw [Mode.mem_near, Mode.mem_near, Mode.mem_neighbors_iff, Mode.mem_neighbors_iff,
    t.turn_surjective.exists]
  exact exists_congr fun d => hg.look_iff hp hq

/-- As many people are near after a move as before it. -/
theorem occupied_move (hg : Relocated t g g') (hp : p ∈ g) :
    m.occupied g' (t.move p) = m.occupied g p := by
  have hset : g'.takenPlaces ∩ m.near g' (t.move p) =
      (g.takenPlaces ∩ m.near g p).image t.move := by
    rw [hg.takenPlaces]
    ext q'
    rw [Finset.mem_inter, Finset.mem_image, Finset.mem_image]
    constructor
    · rintro ⟨⟨q, hq, rfl⟩, hnear⟩
      have hmem : q ∈ g := mem_of_isSeat (isSeat_of_isTaken (mem_takenPlaces.1 hq))
      exact ⟨q, Finset.mem_inter.2 ⟨hq, (hg.mem_near_iff hp hmem).1 hnear⟩, rfl⟩
    · rintro ⟨q, hq, rfl⟩
      rw [Finset.mem_inter] at hq
      have hmem : q ∈ g := mem_of_isSeat (isSeat_of_isTaken (mem_takenPlaces.1 hq.1))
      exact ⟨⟨q, hq.1, rfl⟩, (hg.mem_near_iff hp hmem).2 hq.2⟩
  rw [Mode.occupied_eq_card, Mode.occupied_eq_card, hset,
    Finset.card_image_of_injective _ t.move_injective]

/-! ### Generation after generation -/

/-- On the same floors a room is found again when its cells are. -/
theorem of_sameFloor (hg : Relocated t g g') (hfloor : h.SameFloor g) (hfloor' : h'.SameFloor g')
    (hcell : ∀ p ∈ g, h'.cell? (t.move p) = h.cell? p) : Relocated t h h' := by
  refine ⟨fun p hp => hcell p (hfloor.mem_iff.1 hp), fun p hp q hq => ?_, fun q hq => ?_⟩
  · exact hg.ahead p (hfloor.mem_iff.1 hp) q (hfloor.mem_iff.1 hq)
  · rw [hfloor'.isSeat] at hq
    obtain ⟨p, hp, hmove⟩ := hg.seat q hq
    exact ⟨p, hfloor.mem_iff.2 hp, hmove⟩

/-- With people on places and on the moved places, a room is found again. -/
theorem seated_of_mem_iff (hg : Relocated t g g') {X X' : Finset Position}
    (hX : ∀ p ∈ g, g.isSeat p = true → (t.move p ∈ X' ↔ p ∈ X)) :
    Relocated t (g.seated X) (g'.seated X') := by
  refine hg.of_sameFloor (g.sameFloor_seated X) (g'.sameFloor_seated X') fun p hp => ?_
  rw [cell?_seated, cell?_seated, hg.cell p hp, cell?_eq_views hp, Option.map_some, Option.map_some,
    Option.some.injEq]
  apply Cell.ext
  · show (g.spotAt p).occupy _ = (g.spotAt p).occupy _
    by_cases hseat : g.isSeat p = true
    · rw [decide_eq_decide.2 (hX p hp hseat)]
    · -- nobody sits on the floor
      unfold Layout.isSeat at hseat
      cases hspot : g.spotAt p <;> simp_all [Spot.isSeat]
  · rfl

/-- Seating moved people in the moved room is moving the seated room. -/
theorem seated (hg : Relocated t g g') (X : Finset Position) :
    Relocated t (g.seated X) (g'.seated (X.image t.move)) :=
  hg.seated_of_mem_iff fun _ _ _ => t.move_injective.mem_finset_image

/-- **Step.** The next generation is found again in the next generation. -/
theorem advance (hg : Relocated t g g') (m : Mode) :
    Relocated t (m.rule.advance g) (m.rule.advance g') := by
  apply hg.seated_of_mem_iff
  intro p hp _
  rw [Rule.mem_nextTaken, Rule.mem_nextTaken, hg.isSeat hp, hg.isTaken hp, Mode.fresh_rule,
    Mode.fresh_rule, hg.occupied_move hp]

/-- **Run.** Every generation is found again in the generation of the same number. -/
theorem generation (hg : Relocated t g g') (m : Mode) (k : Nat) :
    Relocated t (m.rule.generation g k) (m.rule.generation g' k) := by
  induction k with
  | zero => exact hg
  | succ k ih => exact ih.advance m

/-- Counting comes before or after a move. -/
theorem recount (hg : Relocated t g g') : Relocated t g.recount g'.recount := by
  refine hg.of_sameFloor g.sameFloor_recount g'.sameFloor_recount fun p hp => ?_
  rw [cell?_eq_views (g.sameFloor_recount.mem_iff.2 hp),
    cell?_eq_views (g'.sameFloor_recount.mem_iff.2 (hg.mem hp)), spotAt_recount, spotAt_recount,
    tallyAt_recount, tallyAt_recount, hg.spotAt hp, hg.isSeat hp]
  have hcount : g'.adjacentOccupied (t.move p) = g.adjacentOccupied p :=
    hg.occupied_move (m := .adjacent) hp
  rw [hcount]

/-- A generation is stored as it is stored before the move. -/
theorem kept (hg : Relocated t g g') (r : Rule) : Relocated t (r.kept g) (r.kept g') := by
  unfold Rule.kept
  split
  · exact hg.recount
  · exact hg

end Relocated

end Layout

/-! ### Simulations -/

namespace Simulation

variable {g g' : Layout} {r r' : Rule}

/-- An answer tells the ticks of any simulation whose ticks have the same numbers and change as many
seats, up to the state in which it ends. -/
theorem isRunOf_of_ticks {s s' : Simulation} {run : Run} (hrun : run.IsRunOf s)
    (hstart : s'.ticks = s.ticks) (hticks : ∀ k, (s'.after k).tick.2 = (s.after k).tick.2) :
    Run.IsRunOf { run with final := s'.after (run.ticks + 1) } s' := by
  refine ⟨rfl, fun i hi => ?_, ?_, ?_⟩
  · rw [hticks]
    exact hrun.loud i hi
  · rw [hticks]
    exact hrun.quiet
  · show run.records = _
    rw [hrun.records, hstart]
    simp only [hticks]

/-- Simulations whose ticks always change as many seats run alike: both for ever, or with the same
number of ticks and the same records. -/
theorem run_of_ticks
    (hticks : ∀ k, ((start r' g').after k).tick.2 = ((start r g).after k).tick.2) :
    (start r' g').run =
      (start r g).run.map fun run => { run with final := (start r' g').after (run.ticks + 1) } := by
  apply Option.ext
  intro run'
  rw [Option.map_eq_some_iff]
  constructor
  · intro hrun'
    have htells' : run'.IsRunOf (start r' g') := (run_eq_some_iff r' g' 0).1 hrun'
    have htells : Run.IsRunOf { run' with final := _ } (start r g) :=
      isRunOf_of_ticks htells' rfl fun k => (hticks k).symm
    refine ⟨_, (run_eq_some_iff r g 0).2 htells, ?_⟩
    show { run' with final := (start r' g').after (run'.ticks + 1) } = run'
    rw [← htells'.final]
  · rintro ⟨run, hrun, rfl⟩
    have htells : run.IsRunOf (start r g) := (run_eq_some_iff r g 0).1 hrun
    have htells' : Run.IsRunOf { run with final := _ } (start r' g') :=
      isRunOf_of_ticks htells rfl hticks
    exact (run_eq_some_iff r' g' 0).2 htells'

end Simulation

namespace Layout

open Simulation (start)

variable {g g' : Layout} {t : Relocation} {m : Mode}

/-- A layout at rest is the latest generation after its last tick. -/
theorem layout_of_settle {outcome : Outcome} {events : List Event}
    (hsettle : g.settle m = some (outcome, events)) :
    outcome.layout = ((start m.rule g).after (outcome.ticks + 1)).current := by
  obtain ⟨run, hrun, heq⟩ := Option.map_eq_some_iff.1 hsettle
  cases heq
  show run.final.intoLayout = _
  rw [Simulation.intoLayout_eq_current, (Simulation.isRunOf_of_runFor hrun).final]

/-- Rooms whose ticks always change as many seats, with as many people at any moment, come to rest
together or not at all, after the same ticks and with the same events. -/
theorem settle_of_ticks
    (hticks : ∀ k, ((start m.rule g').after k).tick.2 = ((start m.rule g).after k).tick.2)
    (hoccupied : ∀ k, ((start m.rule g').after k).current.occupied =
      ((start m.rule g).after k).current.occupied) :
    g'.settle m = (g.settle m).map fun answer =>
      ({ answer.1 with layout := ((start m.rule g').after (answer.1.ticks + 1)).current },
        answer.2) := by
  rw [settle, settle, Simulation.run_of_ticks hticks, Option.map_map, Option.map_map]
  rcases hrun : (start m.rule g).run with _ | run
  · rfl
  · simp only [Option.map_some, Function.comp_apply, Outcome.occupied, hoccupied,
      Simulation.intoLayout_eq_current, (Simulation.isRunOf_of_runFor hrun).final]

namespace Relocated

/-- The latest generation is found again in the latest generation. -/
theorem current (hg : Relocated t g g') (m : Mode) (k : Nat) :
    Relocated t ((start m.rule g).after k).current ((start m.rule g').after k).current := by
  rw [Simulation.current_after_start, Simulation.current_after_start]
  exact (hg.generation m k).kept m.rule

/-- Every tick changes as many seats after a move as before it. -/
theorem tick (hg : Relocated t g g') (m : Mode) (k : Nat) :
    ((start m.rule g').after k).tick.2 = ((start m.rule g).after k).tick.2 := by
  rw [Simulation.tick_eq_card_symmDiff, Simulation.tick_eq_card_symmDiff,
    (hg.generation m (k + 1)).takenPlaces, (hg.generation m k).takenPlaces,
    ← Finset.image_symmDiff _ _ t.move_injective, Finset.card_image_of_injective _ t.move_injective]

/-- A move keeps the number of people. -/
theorem occupied (hg : Relocated t g g') (hsurplus : g.surplus = []) (hsurplus' : g'.surplus = []) :
    g'.occupied = g.occupied := by
  rw [occupied_eq, occupied_eq, hsurplus, hsurplus', hg.takenPlaces,
    Finset.card_image_of_injective _ t.move_injective]

/-- As many people are seated at any moment after a move as before it. -/
theorem occupied_current (hg : Relocated t g g') (hsurplus : g.surplus = [])
    (hsurplus' : g'.surplus = []) (m : Mode) (k : Nat) :
    ((start m.rule g').after k).current.occupied = ((start m.rule g).after k).current.occupied :=
  (hg.current m k).occupied (Simulation.surplus_current_after _ hsurplus k)
    (Simulation.surplus_current_after _ hsurplus' k)

/-- The two rooms come to rest together or not at all, after the same ticks, with as many people and
the same events. -/
theorem settle (hg : Relocated t g g') (hsurplus : g.surplus = []) (hsurplus' : g'.surplus = [])
    (m : Mode) :
    ((g'.settle m).map fun answer => (answer.1.ticks, answer.1.occupied, answer.2)) =
      (g.settle m).map fun answer => (answer.1.ticks, answer.1.occupied, answer.2) := by
  have hoccupied := hg.occupied_current hsurplus hsurplus' m
  rw [settle_of_ticks (hg.tick m) hoccupied, Option.map_map]
  rcases hsettle : g.settle m with _ | ⟨outcome, events⟩
  · rfl
  · simp only [Option.map_some, Function.comp_apply, Outcome.occupied, hoccupied,
      layout_of_settle hsettle]

end Relocated

end Layout

end WaitingRoom
