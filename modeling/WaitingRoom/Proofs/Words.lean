import Mathlib.Data.List.TakeWhile
import WaitingRoom.Layout.Checked
import WaitingRoom.Proofs.Tallies

/-!
# Machine words are enough inside the walls

Looking around from a place and telling the seats around it never runs out of numbers, as long as
the layout itself is one that machine words can measure. So the checked functions do there what
their exact namesakes do.

* **`Layout.Fits`**: the numbers of rows and of columns are machine words. A step from a place of
  such a layout has a value (`Layout.Fits.step_eq`).
* **`Layout.checkedFirstSeat_eq`**, **`Mode.checkedOccupied_eq`**: looking and counting from a place
  give the exact answers.
* **`Layout.checkedAnnounce_of_steps`**: an announcement is made to its end if every place around has
  room for it (`Layout.HasRoom`), and tells those before the first that has none otherwise.
* **`Layout.checkedAnnounce_eq`**: so it is made to its end inside the walls if every tally is at least
  eight away from the bounds.
-/

namespace WaitingRoom

/-- Below the largest coordinate every step has a value. -/
theorem Position.step_eq {p : Position} (hrow : p.row < maxCoordinate) (hcol : p.col < maxCoordinate)
    (d : Direction) : p.step d = .ok (p.toward d) := by
  unfold step
  split
  · next hnone => rw [hnone]
  · next q hq =>
    have hrepresentable : q.Representable := by
      obtain ⟨hr, hc⟩ := toward_eq_some_iff.1 hq
      have hshift : d.rowShift ≤ 1 ∧ d.colShift ≤ 1 := by cases d <;> decide
      exact ⟨by omega, by omega⟩
    rw [if_pos hrepresentable, hq]

/-- Checks that all pass leave the exact choice. -/
theorem filterMapM_ok {α β ε : Type} {f : α → Except ε (Option β)} {f' : α → Option β} {l : List α}
    (h : ∀ a ∈ l, f a = .ok (f' a)) : l.filterMapM f = .ok (l.filterMap f') := by
  induction l with
  | nil => rfl
  | cons a l ih =>
    rw [List.forall_mem_cons] at h
    obtain ⟨ha, hl⟩ := h
    rw [List.filterMapM_cons, ha, ih hl]
    cases hb : f' a with
    | none => rw [List.filterMap_cons_none hb]; rfl
    | some b => rw [List.filterMap_cons_some hb]; rfl

namespace Layout

variable {g h : Layout} {p : Position}

/-- The size of the layout is given in machine words. -/
def Fits (g : Layout) : Prop := g.rows ≤ Position.maxCoordinate ∧ g.cols ≤ Position.maxCoordinate

instance (g : Layout) : Decidable g.Fits :=
  inferInstanceAs (Decidable (_ ∧ _))

/-- No step from a place of such a layout fails. -/
theorem Fits.step_eq (hg : g.Fits) (hp : p ∈ g) (d : Direction) : p.step d = .ok (p.toward d) :=
  Position.step_eq (hp.1.trans_le hg.1) (hp.2.trans_le hg.2) d

/-! ### Looking -/

/-- Beyond the walls nobody is found. -/
theorem checkedFirstSeat_of_step_none {d : Direction} (hstep : p.step d = .ok none) :
    g.checkedFirstSeat d p = .ok none := by
  rw [checkedFirstSeat]
  split <;> simp_all

/-- One step on, there is a seat or the search goes on. -/
theorem checkedFirstSeat_of_step_some {d : Direction} {q : Position}
    (hstep : p.step d = .ok (some q)) :
    g.checkedFirstSeat d p =
      if q ∈ g then if g.isSeat q then .ok (some q) else g.checkedFirstSeat d q else .ok none := by
  rw [checkedFirstSeat]
  split <;> simp_all

/-- The walk to the first seat stays in the machine words if its first step does: each of the others
starts inside. -/
theorem checkedFirstSeat_of_step (hg : g.Fits) {d : Direction}
    (hstep : p.step d = .ok (p.toward d)) : g.checkedFirstSeat d p = .ok (g.firstSeat? d p) := by
  fun_induction g.firstSeat? d p with
  | case1 p hnone =>
    rw [hnone] at hstep
    exact checkedFirstSeat_of_step_none hstep
  | case2 p q hq hmem _ hseat =>
    rw [hq] at hstep
    rw [checkedFirstSeat_of_step_some hstep, if_pos hmem, if_pos hseat]
  | case3 p q hq hmem _ hfloor ih =>
    rw [hq] at hstep
    rw [checkedFirstSeat_of_step_some hstep, if_pos hmem, if_neg hfloor, ih (hg.step_eq hmem d)]
  | case4 p q hq hmem =>
    rw [hq] at hstep
    rw [checkedFirstSeat_of_step_some hstep, if_neg hmem]

/-- The search from a place of such a layout never fails. -/
theorem checkedFirstSeat_eq (hg : g.Fits) (hp : p ∈ g) (d : Direction) :
    g.checkedFirstSeat d p = .ok (g.firstSeat? d p) :=
  checkedFirstSeat_of_step hg (hg.step_eq hp d)

/-- Where no step fails looking around does not either. -/
theorem checkedAdjacent_of_steps (hsteps : ∀ d, p.step d = .ok (p.toward d)) :
    g.checkedAdjacent p = .ok (g.adjacent p) := by
  rw [checkedAdjacent, filterMapM_ok fun d _ => hsteps d]
  rfl

/-- Nor does looking further. -/
theorem checkedSighted_of_steps (hg : g.Fits) (hsteps : ∀ d, p.step d = .ok (p.toward d)) :
    g.checkedSighted p = .ok (g.sighted p) :=
  filterMapM_ok fun d _ => checkedFirstSeat_of_step hg (hsteps d)

/-! ### Telling -/

/-- The layout after the seats at some places were told that somebody sat down or left beside them. -/
def tell (g : Layout) (b : Bool) (ps : List Position) : Layout :=
  ps.foldl (fun h q => h.modify q (Cell.creditSeat (change b))) g

/-- Telling the seats at the places around a position is an announcement from there. -/
theorem tell_adjacent (g : Layout) (p : Position) (b : Bool) :
    g.tell b (g.adjacent p) = g.announce p b := rfl

/-- A place has room for a change if the tally of its seat can take it, or if there is no seat. -/
def HasRoom (g : Layout) (b : Bool) (q : Position) : Prop :=
  g.isSeat q = true → RepresentableTally (g.tallyAt q + change b)

instance (g : Layout) (b : Bool) (q : Position) : Decidable (g.HasRoom b q) :=
  inferInstanceAs (Decidable (_ → _))

/-- In a direction where no place is seen there is nobody to tell. -/
theorem checkedAnnounceAlong_of_look_none {d : Direction} (hstep : p.step d = .ok (p.toward d))
    (hlook : Mode.adjacent.look g p d = none) (b : Bool) (ds : List Direction) :
    g.checkedAnnounceAlong p b (d :: ds) = g.checkedAnnounceAlong p b ds := by
  rw [checkedAnnounceAlong, hstep]
  cases hq : p.toward d with
  | none => rfl
  | some q =>
    have hout : q ∉ g := by simpa [Mode.look, hq] using hlook
    have hseat : g.isSeat q = false := Bool.eq_false_iff.2 fun hseat => hout (mem_of_isSeat hseat)
    have hsame : g.modify q (Cell.creditSeat (change b)) = g := if_neg hout
    simp only [hseat, hsame, Bool.false_eq_true, false_and, if_false]

/-- The place seen in a direction is told if it has room; otherwise telling ends there. -/
theorem checkedAnnounceAlong_of_look_some {d : Direction} {q : Position}
    (hstep : p.step d = .ok (p.toward d)) (hlook : Mode.adjacent.look g p d = some q) (b : Bool)
    (ds : List Direction) :
    g.checkedAnnounceAlong p b (d :: ds) =
      if g.HasRoom b q then
        (g.modify q (Cell.creditSeat (change b))).checkedAnnounceAlong p b ds
      else (g, .error .tally) := by
  have htoward : p.toward d = some q :=
    Position.toward_eq_some_iff_ahead.2 (Mode.look_adjacent_eq_some_iff.1 hlook).1
  have hfull : g.isSeat q = true ∧ ¬RepresentableTally (g.tallyAt q + change b) ↔ ¬g.HasRoom b q := by
    rw [HasRoom, Classical.not_imp]
  rw [checkedAnnounceAlong, hstep, htoward]
  simp only [hfull, ite_not]

/-- Telling the seats in some directions ends with the first place that has no room, and otherwise at
the end. No seat is told twice, so each is found with the tally that it had at the beginning. -/
theorem checkedAnnounceAlong_eq_tell (hsteps : ∀ d, p.step d = .ok (p.toward d)) (b : Bool)
    {ds : List Direction} (hds : ds.Nodup) (hfloor : h.SameFloor g)
    (hahead : ∀ q ∈ ds.filterMap (Mode.adjacent.look g p), h.tallyAt q = g.tallyAt q) :
    h.checkedAnnounceAlong p b ds =
      (h.tell b ((ds.filterMap (Mode.adjacent.look g p)).takeWhile (g.HasRoom b ·)),
        if ∀ q ∈ ds.filterMap (Mode.adjacent.look g p), g.HasRoom b q then .ok ()
        else .error .tally) := by
  induction ds generalizing h with
  | nil => rfl
  | cons d ds ih =>
    obtain ⟨hd, hds⟩ := List.nodup_cons.1 hds
    have hseen : Mode.adjacent.look h p d = Mode.adjacent.look g p d := Mode.look_congr hfloor _ p d
    cases hlook : Mode.adjacent.look g p d with
    | none =>
      rw [List.filterMap_cons_none hlook] at hahead ⊢
      rw [checkedAnnounceAlong_of_look_none (hsteps d) (hseen.trans hlook)]
      exact ih hds hfloor hahead
    | some q =>
      rw [List.filterMap_cons_some hlook] at hahead ⊢
      rw [checkedAnnounceAlong_of_look_some (hsteps d) (hseen.trans hlook)]
      obtain ⟨hq, hrest⟩ := List.forall_mem_cons.1 hahead
      have hsame : h.HasRoom b q ↔ g.HasRoom b q := by
        rw [HasRoom, HasRoom, hfloor.isSeat, hq]
      by_cases hroom : g.HasRoom b q
      · have hnext : ∀ s ∈ ds.filterMap (Mode.adjacent.look g p),
            (h.modify q (Cell.creditSeat (change b))).tallyAt s = g.tallyAt s := by
          intro s hs
          have hne : s ≠ q := by
            rintro rfl
            obtain ⟨d', hd', hlook'⟩ := List.mem_filterMap.1 hs
            exact hd (Mode.direction_eq_of_look hlook hlook' ▸ hd')
          rw [tallyAt_modify_creditSeat, if_neg fun hsq => hne hsq.1, Int.add_zero, hrest s hs]
        rw [if_pos (hsame.2 hroom), List.takeWhile_cons_of_pos (by simpa using hroom),
          ih hds ((sameFloor_modify_creditSeat h q _).trans hfloor) hnext]
        simp only [List.forall_mem_cons, hroom, true_and]
        rfl
      · have hall : ¬∀ s ∈ q :: ds.filterMap (Mode.adjacent.look g p), g.HasRoom b s :=
          fun hall => hroom (hall q List.mem_cons_self)
        rw [if_neg (hsame.not.2 hroom), List.takeWhile_cons_of_neg (by simpa using hroom), if_neg hall]
        rfl

/-- Wherever all steps have values, an announcement is made to its end if all places around have room.
If not, it ends with the first that has none, and those before have been told. -/
theorem checkedAnnounce_of_steps (hsteps : ∀ d, p.step d = .ok (p.toward d)) (g : Layout) (b : Bool) :
    g.checkedAnnounce p b =
      if ∀ q ∈ g.adjacent p, g.HasRoom b q then (g.announce p b, .ok ())
      else (g.tell b ((g.adjacent p).takeWhile (g.HasRoom b ·)), .error .tally) := by
  have haround : g.adjacent p = Direction.all.filterMap (Mode.adjacent.look g p) :=
    Mode.adjacent.neighbors_eq_filterMap g p
  rw [checkedAnnounce,
    checkedAnnounceAlong_eq_tell hsteps b Direction.nodup_all (.refl g) fun _ _ => rfl, ← haround]
  split
  · next hall => rw [List.takeWhile_eq_self_iff.2 (by simpa using hall), tell_adjacent]
  · rfl

/-- From a place inside an announcement is made to its end if no tally is near the bounds. -/
theorem checkedAnnounce_eq (hg : g.Fits) (hp : p ∈ g) (b : Bool)
    (htally : ∀ q, (g.tallyAt q).natAbs + 8 < 0x8000000000000000) :
    g.checkedAnnounce p b = (g.announce p b, .ok ()) := by
  have hroom : ∀ q ∈ g.adjacent p, g.HasRoom b q := by
    intro q _ _
    have hchange : (change b).natAbs = 1 := by cases b <;> rfl
    have := htally q
    exact ⟨by omega, by omega⟩
  rw [checkedAnnounce_of_steps (hg.step_eq hp), if_pos hroom]

end Layout

/-- Both modes count what they would count with unbounded numbers wherever all steps have values. -/
theorem Mode.checkedOccupied_of_steps {g : Layout} {p : Position} (hg : g.Fits)
    (hsteps : ∀ d, p.step d = .ok (p.toward d)) (m : Mode) :
    m.checkedOccupied g p = .ok (m.occupied g p) := by
  cases m with
  | adjacent =>
    rw [checkedOccupied, Layout.checkedAdjacent_of_steps hsteps]
    rfl
  | visible =>
    rw [checkedOccupied, Layout.checkedSighted_of_steps hg hsteps]
    rfl

/-- At a place of such a layout the count never fails. -/
theorem Mode.checkedOccupied_eq {g : Layout} {p : Position} (hg : g.Fits) (hp : p ∈ g) (m : Mode) :
    m.checkedOccupied g p = .ok (m.occupied g p) :=
  checkedOccupied_of_steps hg (hg.step_eq hp) m

end WaitingRoom
