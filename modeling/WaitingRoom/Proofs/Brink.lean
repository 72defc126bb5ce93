import WaitingRoom.Proofs.Words

/-!
# Out of numbers

Which positions cannot be looked around from in machine words. A walk may be as long as it likes: each
of its steps but the first starts inside the walls, so only the first one can run out of numbers.

* **`Position.Outermost`**: a position with no position south or no position east of it. From there some
  step has no value, and from all other positions every step has one (`Position.step_eq_of_inner`,
  `Position.exists_step_eq_error`).
* **`Layout.checkedAdjacent_eq_ite`**, **`Mode.checkedOccupied_eq_ite`**: looking around and counting
  fail at the outermost positions and give the exact answers everywhere else, inside the walls or not.
* **`Layout.checkedAnnounce_outcome`**: so does an announcement, unless it is a tally that runs out of
  numbers first.
-/

namespace WaitingRoom

/-! ### Steps -/

namespace Position

variable {p : Position} {d : Direction}

/-- One of the coordinates is the largest there is. -/
def Outermost (p : Position) : Prop := p.row = maxCoordinate ∨ p.col = maxCoordinate

instance (p : Position) : Decidable p.Outermost :=
  inferInstanceAs (Decidable (_ ∨ _))

/-- Any step from an inner position passes. -/
theorem step_eq_of_inner (hp : p.Representable) (hinner : ¬p.Outermost) (d : Direction) :
    p.step d = .ok (p.toward d) := by
  obtain ⟨hrow, hcol⟩ := not_or.1 hinner
  exact step_eq (lt_of_le_of_ne hp.1 hrow) (lt_of_le_of_ne hp.2 hcol) d

/-- A step has the exact value, or runs out of coordinates. -/
theorem step_eq_or (p : Position) (d : Direction) :
    p.step d = .ok (p.toward d) ∨ p.step d = .error .coordinate := by
  unfold step
  split
  · next hnone => exact .inl (by rw [hnone])
  · next q hq =>
    split
    · exact .inl (by rw [hq])
    · exact .inr rfl

/-- From an outermost position there is a step without a value: to the south, or to the east. -/
theorem exists_step_eq_error (hp : p.Outermost) : ∃ d, p.step d = .error .coordinate := by
  rcases hp with hrow | hcol
  · have hsouth : p.toward .south = some ⟨p.row + 1, p.col⟩ :=
      toward_eq_some_iff.2 ⟨rfl, (Int.add_zero _).symm⟩
    refine ⟨.south, ?_⟩
    rw [step, hsouth]
    exact if_neg fun hq => by have := hq.1; simp only at this; omega
  · have heast : p.toward .east = some ⟨p.row, p.col + 1⟩ :=
      toward_eq_some_iff.2 ⟨(Int.add_zero _).symm, rfl⟩
    refine ⟨.east, ?_⟩
    rw [step, heast]
    exact if_neg fun hq => by have := hq.2; simp only at this; omega

/-- No two directions lead to the same position. -/
theorem direction_eq_of_toward {q : Position} {d' : Direction} (hd : p.toward d = some q)
    (hd' : p.toward d' = some q) : d = d' :=
  (toward_eq_some_iff_ahead.1 hd).direction_eq Nat.one_pos Nat.one_pos
    (toward_eq_some_iff_ahead.1 hd')

end Position

/-- One failed check is enough for a choice to fail, if checks can fail in one way only. -/
theorem filterMapM_error {α β ε : Type} {f : α → Except ε (Option β)} {f' : α → Option β} {e : ε}
    {l : List α} (hor : ∀ a, f a = .ok (f' a) ∨ f a = .error e) (hfails : ∃ a ∈ l, f a = .error e) :
    l.filterMapM f = .error e := by
  induction l with
  | nil => simp at hfails
  | cons a l ih =>
    rw [List.filterMapM_cons]
    rcases hor a with ha | ha
    · have hrest : ∃ a ∈ l, f a = .error e := by
        obtain ⟨a', hmem, ha'⟩ := hfails
        rcases List.mem_cons.1 hmem with rfl | hmem
        · rw [ha] at ha'
          cases ha'
        · exact ⟨a', hmem, ha'⟩
      rw [ha]
      cases f' a <;> simp only [bind, Except.bind, ih hrest]
    · rw [ha]
      rfl

/-! ### Looking -/

namespace Layout

variable {g : Layout} {p : Position}

/-- Where the first step fails nobody is found. -/
theorem checkedFirstSeat_of_step_error {d : Direction} {e : Overflow} (hstep : p.step d = .error e) :
    g.checkedFirstSeat d p = .error e := by
  rw [checkedFirstSeat]
  split <;> simp_all

/-- Looking in a direction runs out of numbers with the first step or never. -/
theorem checkedFirstSeat_eq_or (hg : g.Fits) (d : Direction) (p : Position) :
    g.checkedFirstSeat d p = .ok (g.firstSeat? d p) ∨
      g.checkedFirstSeat d p = .error .coordinate :=
  (p.step_eq_or d).imp (checkedFirstSeat_of_step hg) checkedFirstSeat_of_step_error

/-- Looking around fails at the outermost positions only. -/
theorem checkedAdjacent_eq_ite (hp : p.Representable) :
    g.checkedAdjacent p = if p.Outermost then .error .coordinate else .ok (g.adjacent p) := by
  split
  · next houter =>
    obtain ⟨d, hd⟩ := Position.exists_step_eq_error houter
    rw [checkedAdjacent, filterMapM_error p.step_eq_or ⟨d, d.mem_all, hd⟩]
    rfl
  · next hinner => exact checkedAdjacent_of_steps (Position.step_eq_of_inner hp hinner)

/-- So does looking further. -/
theorem checkedSighted_eq_ite (hg : g.Fits) (hp : p.Representable) :
    g.checkedSighted p = if p.Outermost then .error .coordinate else .ok (g.sighted p) := by
  split
  · next houter =>
    obtain ⟨d, hd⟩ := Position.exists_step_eq_error houter
    exact filterMapM_error (fun d => checkedFirstSeat_eq_or hg d p)
      ⟨d, d.mem_all, checkedFirstSeat_of_step_error hd⟩
  · next hinner => exact checkedSighted_of_steps hg (Position.step_eq_of_inner hp hinner)

end Layout

/-- Both modes count from the same positions. -/
theorem Mode.checkedOccupied_eq_ite {g : Layout} {p : Position} (hg : g.Fits) (hp : p.Representable)
    (m : Mode) :
    m.checkedOccupied g p =
      if p.Outermost then .error .coordinate else .ok (m.occupied g p) := by
  cases m with
  | adjacent =>
    rw [checkedOccupied, Layout.checkedAdjacent_eq_ite hp]
    split <;> rfl
  | visible =>
    rw [checkedOccupied, Layout.checkedSighted_eq_ite hg hp]
    split <;> rfl

/-! ### Telling -/

namespace Layout

variable {g : Layout} {p : Position} {b : Bool}

/-- How telling the seats in some directions can end. -/
inductive TellingEnds (g : Layout) (p : Position) (b : Bool) (ds : List Direction) :
    Except Overflow Unit → Prop
  /-- All steps had values. -/
  | done (hsteps : ∀ d ∈ ds, p.step d = .ok (p.toward d)) : TellingEnds g p b ds (.ok ())
  /-- One of the steps had none. -/
  | brink {d : Direction} (hd : d ∈ ds) (hstep : p.step d = .error .coordinate) :
      TellingEnds g p b ds (.error .coordinate)
  /-- One of the seats had a tally that could not take the change. -/
  | full {d : Direction} {q : Position} (hd : d ∈ ds) (hq : p.toward d = some q)
      (hseat : g.isSeat q = true) (hfull : ¬RepresentableTally (g.tallyAt q + change b)) :
      TellingEnds g p b ds (.error .tally)

/-- What comes after a first step may happen in another layout, if the seats ahead have the same
tallies there. -/
theorem TellingEnds.cons {h : Layout} {d : Direction} {ds : List Direction}
    {ended : Except Overflow Unit} (hstep : p.step d = .ok (p.toward d))
    (hahead : ∀ d' ∈ ds, ∀ q, p.toward d' = some q →
      h.isSeat q = g.isSeat q ∧ h.tallyAt q = g.tallyAt q)
    (hends : h.TellingEnds p b ds ended) : g.TellingEnds p b (d :: ds) ended := by
  cases hends with
  | done hsteps => exact .done (List.forall_mem_cons.2 ⟨hstep, hsteps⟩)
  | brink hd hstep' => exact .brink (List.mem_cons_of_mem d hd) hstep'
  | full hd hq hseat hfull =>
    obtain ⟨hseat', htally⟩ := hahead _ hd _ hq
    rw [hseat'] at hseat
    rw [htally] at hfull
    exact .full (List.mem_cons_of_mem d hd) hq hseat hfull

/-- Tallies are looked at as they were at the beginning: no seat is told twice. -/
theorem tellingEnds_checkedAnnounceAlong {ds : List Direction} (hds : ds.Nodup) (g : Layout) :
    g.TellingEnds p b ds (g.checkedAnnounceAlong p b ds).2 := by
  induction ds generalizing g with
  | nil => exact .done fun d hd => nomatch hd
  | cons d ds ih =>
    obtain ⟨hd, hds⟩ := List.nodup_cons.1 hds
    rw [checkedAnnounceAlong]
    rcases p.step_eq_or d with hstep | hstep
    · rw [hstep]
      cases hq : p.toward d with
      | none => exact .cons hstep (fun _ _ _ _ => ⟨rfl, rfl⟩) (ih hds g)
      | some q =>
        simp only
        split
        · next hfull => exact .full List.mem_cons_self hq hfull.1 hfull.2
        · refine .cons hstep (fun d' hd' q' hq' => ?_) (ih hds _)
          have hne : q' ≠ q := by
            rintro rfl
            exact hd (Position.direction_eq_of_toward hq hq' ▸ hd')
          rw [isSeat_modify_creditSeat, tallyAt_modify_creditSeat, if_neg fun h => hne h.1]
          exact ⟨rfl, Int.add_zero _⟩
    · rw [hstep]
      exact .brink List.mem_cons_self hstep

/-- An announcement runs out of coordinates at the outermost positions and is made to its end everywhere
else, unless a seat around has a tally that cannot take the change. -/
theorem checkedAnnounce_outcome (hp : p.Representable) (g : Layout) (b : Bool) :
    (g.checkedAnnounce p b).2 = (if p.Outermost then .error .coordinate else .ok ()) ∨
      (g.checkedAnnounce p b).2 = .error .tally ∧ ∃ q ∈ g.adjacent p, g.isSeat q = true ∧
        ¬RepresentableTally (g.tallyAt q + change b) := by
  have hends := tellingEnds_checkedAnnounceAlong (p := p) (b := b) Direction.nodup_all g
  rw [checkedAnnounce]
  generalize (g.checkedAnnounceAlong p b Direction.all).2 = ended at hends ⊢
  cases hends with
  | done hsteps =>
    have hinner : ¬p.Outermost := by
      intro houter
      obtain ⟨d, hd⟩ := Position.exists_step_eq_error houter
      rw [hsteps d d.mem_all] at hd
      cases hd
    rw [if_neg hinner]
    exact .inl rfl
  | brink _ hstep =>
    have houter : p.Outermost := by
      by_contra hinner
      rw [Position.step_eq_of_inner hp hinner] at hstep
      cases hstep
    rw [if_pos houter]
    exact .inl rfl
  | full _ hq hseat hfull =>
    exact .inr ⟨rfl, _, mem_adjacent.2 ⟨mem_of_isSeat hseat, _, hq⟩, hseat, hfull⟩

end Layout

end WaitingRoom
