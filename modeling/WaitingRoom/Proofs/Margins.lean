import WaitingRoom.Proofs.Relocation

/-!
# Rooms with a margin

Floor may be laid around a plan on all four sides. The walls are further away then, and nobody cares:
a wall is no different from floor behind which there is no seat.

* **`framed`**: a list with copies of one member before and after it.
* **`Margins`**: how many rows and columns of floor are added on each side, on the rows of a plan
  (`Margins.onRows`) and on places (`Margins.move`).
* **`Layout.Holds.relocated`**: a room is found again in the wider one.
* **`Simulation.after_start_margins`**: ticks change as many seats, and every place keeps its cell.
-/

namespace WaitingRoom

/-! ### Lists in a frame -/

/-- The list with `n` copies of `a` before it and `m` copies after it. -/
def framed {α : Type} (n m : Nat) (a : α) (l : List α) : List α :=
  List.replicate n a ++ l ++ List.replicate m a

section framed

variable {α : Type} {n m i : Nat} {a x : α} {l : List α}

/-- A frame adds its two sides to the length. -/
theorem length_framed : (framed n m a l).length = n + l.length + m := by
  simp [framed, Nat.add_assoc]

/-- In a frame there is the filling and what was there. -/
theorem mem_framed (hx : x ∈ framed n m a l) : x = a ∨ x ∈ l := by
  rw [framed, List.mem_append, List.mem_append] at hx
  rcases hx with (hbefore | hinside) | hafter
  · exact .inl (List.eq_of_mem_replicate hbefore)
  · exact .inr hinside
  · exact .inl (List.eq_of_mem_replicate hafter)

/-- What is inside is found behind the copies before it. -/
theorem getElem?_framed_add (hi : i < l.length) : (framed n m a l)[n + i]? = l[i]? := by
  have hbefore : (List.replicate n a).length ≤ n + i := by
    rw [List.length_replicate]
    exact Nat.le_add_right n i
  have hinside : n + i < (List.replicate n a ++ l).length := by
    rw [List.length_append, List.length_replicate]
    exact Nat.add_lt_add_left hi n
  rw [framed, List.getElem?_append_left hinside, List.getElem?_append_right hbefore,
    List.length_replicate, Nat.add_sub_cancel_left]

/-- Whatever is found is the copied member, or stands inside. -/
theorem exists_of_getElem?_framed (hx : (framed n m a l)[i]? = some x) (hne : x ≠ a) :
    ∃ j, i = n + j ∧ l[j]? = some x := by
  have hreplicate : ∀ k j : Nat, (List.replicate k a)[j]? ≠ some x := by
    intro k j hj
    exact hne (List.eq_of_mem_replicate (List.mem_of_getElem? hj))
  rw [framed, List.append_assoc, List.getElem?_append] at hx
  split at hx
  · exact absurd hx (hreplicate n i)
  · next hi =>
    rw [List.length_replicate] at hi hx
    rw [List.getElem?_append] at hx
    split at hx
    · exact ⟨i - n, by omega, hx⟩
    · exact absurd hx (hreplicate m _)

end framed

/-! ### Floor on all sides -/

/-- How much floor is added to a plan on each side. -/
structure Margins where
  /-- The rows before the first one. -/
  north : Nat
  /-- The rows after the last one. -/
  south : Nat
  /-- The columns before the first one. -/
  west : Nat
  /-- The columns after the last one. -/
  east : Nat
deriving DecidableEq, Repr

namespace Margins

variable (t : Margins) {plan : List (List Char)} {cols : Nat} {p q : Position}

/-- The rows of a plan with floor on all sides. -/
def onRows (plan : List (List Char)) : List (List Char) :=
  let width := t.west + (plan.headD []).length + t.east
  framed t.north t.south (List.replicate width '.') (plan.map (framed t.west t.east '.'))

/-- The lines of a plan with floor on all sides. -/
def onLines (lines : List String) : List String :=
  (t.onRows (lines.map String.toList)).map String.ofList

/-- Where a place is found behind the margins. -/
def move (p : Position) : Position := ⟨t.north + p.row, t.west + p.col⟩

/-- Margins move all places in the same way and turn no direction. -/
def relocation : Relocation where
  move := t.move
  turn := id
  move_injective p q h := by
    rw [move, move, Position.ext_iff] at h
    exact Position.ext (Nat.add_left_cancel h.1) (Nat.add_left_cancel h.2)
  turn_surjective := Function.surjective_id

/-- A shift keeps directions and distances. -/
theorem ahead_move_iff {d : Direction} {n : Nat} :
    (t.move p).Ahead d n (t.move q) ↔ p.Ahead d n q := by
  simp only [Position.Ahead, move, Int.natCast_add]
  refine and_congr ?_ ?_ <;> omega

/-- A plan with floor on all sides can be read. -/
theorem readable_onRows (hplan : Readable plan cols) (hne : plan = [] → cols = 0) :
    Readable (t.onRows plan) (t.west + cols + t.east) := by
  have hwidth : (plan.headD []).length = cols := by
    by_cases hempty : plan = []
    · rw [hne hempty, hempty]
      rfl
    · exact hplan.length_headD hempty
  refine ⟨fun row hrow => ?_, fun row hrow c hc => ?_⟩
  · rcases mem_framed hrow with rfl | hinside
    · rw [List.length_replicate, hwidth]
    · obtain ⟨inner, hinner, rfl⟩ := List.mem_map.1 hinside
      rw [length_framed, hplan.length inner hinner]
  · rcases mem_framed hrow with rfl | hinside
    · exact .inr (List.eq_of_mem_replicate hc)
    · obtain ⟨inner, hinner, rfl⟩ := List.mem_map.1 hinside
      rcases mem_framed hc with rfl | hmark
      · exact .inr rfl
      · exact hplan.mark inner hinner c hmark

/-- The mark of a place is found behind the margins. -/
theorem markAt_onRows_move (hp : (markAt plan p).isSome = true) :
    markAt (t.onRows plan) (t.move p) = markAt plan p := by
  obtain ⟨c, hc⟩ := Option.isSome_iff_exists.1 hp
  obtain ⟨row, hrow, hmark⟩ := Option.bind_eq_some_iff.1 hc
  obtain ⟨hlength, -⟩ := List.getElem?_eq_some_iff.1 hrow
  obtain ⟨hcol, -⟩ := List.getElem?_eq_some_iff.1 hmark
  rw [markAt, onRows, move, getElem?_framed_add (by rwa [List.length_map]), List.getElem?_map, hrow,
    Option.map_some, Option.bind_some, getElem?_framed_add hcol, hmark, hc]

/-- Every seat behind the margins is one of the plan. -/
theorem exists_of_markAt_onRows (hq : markAt (t.onRows plan) q = some 'L') :
    ∃ p, t.move p = q ∧ markAt plan p = some 'L' := by
  obtain ⟨row, hrow, hmark⟩ := Option.bind_eq_some_iff.1 hq
  have hne : ∀ width, row ≠ List.replicate width '.' := by
    rintro width rfl
    exact absurd (List.eq_of_mem_replicate (List.mem_of_getElem? hmark)) (by decide)
  obtain ⟨i, hi, hinside⟩ := exists_of_getElem?_framed hrow (hne _)
  rw [List.getElem?_map] at hinside
  obtain ⟨inner, hinner, rfl⟩ := Option.map_eq_some_iff.1 hinside
  obtain ⟨j, hj, hseat⟩ := exists_of_getElem?_framed hmark (by decide)
  refine ⟨⟨i, j⟩, Position.ext hi.symm hj.symm, ?_⟩
  rw [markAt, hinner, Option.bind_some, hseat]

end Margins

/-! ### Rooms -/

/-- A room is found again behind the margins. -/
theorem Layout.Holds.relocated {g wide : Layout} {rows : List (List Char)} (hg : g.Holds rows)
    (t : Margins) (hwide : wide.Holds (t.onRows rows)) : Relocated t.relocation g wide := by
  refine ⟨fun p hp => ?_, fun p _ q _ d n => t.ahead_move_iff, fun q hq => ?_⟩
  · rw [hwide.cell?_eq, hg.cell?_eq]
    exact congrArg (Option.bind · _) (t.markAt_onRows_move (hg.mem_iff.1 hp))
  · obtain ⟨p, hmove, hmark⟩ := t.exists_of_markAt_onRows (hwide.isSeat_iff.1 hq)
    refine ⟨p, hg.mem_iff.2 ?_, hmove⟩
    rw [hmark]
    rfl

namespace Simulation

/-- **Walls are no different from floor.** Let any number of rows and columns of floor be added to a
plan on all sides, and let anybody sit on its seats. Then the wider plan can be read; in either mode
every tick changes as many seats on it as on the plan, and after any number of ticks each place of
the plan has the same cell on both, tally included. So both come to rest or none, after the same
ticks, with as many people and the same events. -/
theorem after_start_margins (t : Margins) (lines : List String) (plan : Layout)
    (hplan : Layout.ofLines lines = .ok plan) (X : Finset Position) :
    ∃ wide, Layout.ofLines (t.onLines lines) = .ok wide ∧
      ∀ m : Mode,
        (∀ k,
          ((start m.rule (wide.seated (X.image t.move))).after k).tick.2 =
              ((start m.rule (plan.seated X)).after k).tick.2 ∧
            ∀ p ∈ plan,
              ((start m.rule (wide.seated (X.image t.move))).after k).current.cell? (t.move p) =
                ((start m.rule (plan.seated X)).after k).current.cell? p) ∧
        (((wide.seated (X.image t.move)).settle m).map fun answer =>
            (answer.1.ticks, answer.1.occupied, answer.2)) =
          ((plan.seated X).settle m).map fun answer =>
            (answer.1.ticks, answer.1.occupied, answer.2) := by
  obtain ⟨hholds, hempty⟩ := Layout.holds_of_ofRows hplan
  obtain ⟨wide, hwide⟩ := Layout.exists_ofRows (t.readable_onRows hholds.readable hempty)
  have hwideHolds := (Layout.holds_of_ofRows hwide).1
  have hmoved := (hholds.relocated t hwideHolds).seated X
  refine ⟨wide, ?_, fun m => ⟨fun k => ⟨?_, fun p hp => ?_⟩, ?_⟩⟩
  · rw [Margins.onLines, Layout.ofLines_map_ofList, hwide]
  · exact hmoved.tick m k
  · have hfloor := (sameFloor_current_after m.rule (plan.seated X) k).trans (plan.sameFloor_seated X)
    exact (hmoved.current m k).cell p (hfloor.mem_iff.2 hp)
  · apply hmoved.settle
    · rw [Layout.surplus_seated, hholds.surplus_eq]
    · rw [Layout.surplus_seated, hwideHolds.surplus_eq]

/-- Two seats with floor between them. -/
def farSeats : Layout where
  rows := 1
  cols := 3
  cells := #[⟨.free, 0⟩, ⟨.floor, 0⟩, ⟨.free, 0⟩]
  covers := by decide

/-- Somebody on the first seat is seen from the second one, and on the wider plan too. -/
theorem after_start_margins_farSeats :
    Layout.ofLines ["L.L"] = .ok farSeats ∧
      ∃ wide, Layout.ofLines ["......", "..L.L.", "......"] = .ok wide ∧
        ((start Mode.visible.rule (wide.seated {⟨1, 2⟩})).after 1).current.cell? ⟨1, 4⟩ =
          ((start Mode.visible.rule (farSeats.seated {⟨0, 0⟩})).after 1).current.cell? ⟨0, 2⟩ := by
  have hplan : Layout.ofLines ["L.L"] = .ok farSeats := rfl
  obtain ⟨wide, hwide, hticks⟩ := after_start_margins
    { north := 1, south := 1, west := 2, east := 1 } ["L.L"] farSeats hplan {⟨0, 0⟩}
  exact ⟨hplan, wide, hwide, ((hticks .visible).1 1).2 ⟨0, 2⟩ (by decide)⟩

end Simulation

end WaitingRoom
