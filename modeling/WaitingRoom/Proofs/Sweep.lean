import Mathlib.Algebra.BigOperators.Group.Finset.Piecewise
import WaitingRoom.Simulation
import WaitingRoom.Proofs.Tallies

/-!
# A tick under way

A sweep decides about places one after another. Each visit is read through what it does to a place
of the target; a sweep over a list of places is the visits put together.

* **`Rule.decision`**, **`Rule.Flips`**: what is decided about a place of the source, and whether that
  is a change. Both look at the source alone.
* **`Rule.credit`**: what a visit adds to the tally of another place: the carried count at its own
  place, and an announcement around if the seat flips.
* **`Rule.spotAt_foldl_visit`**, **`Rule.tallyAt_foldl_visit`**, **`Rule.changed_foldl_visit`**: the state
  after any list of visits. Tallies are sums of credits, so the order of the visits is of no account
  and no tally has to be followed through its negative values.
* **`Rule.credit_eq`**, **`Rule.sum_credit`**: what a seat is credited by one visit; over all places
  that is its old count and the changes of the people around.
-/

namespace WaitingRoom.Rule

variable {r : Rule} {source : Layout} {s : Sweep} {p q : Position}

/-! ### Decisions -/

/-- Whether the seat at a place of the source is taken next. -/
def decision (r : Rule) (source : Layout) (p : Position) : Bool :=
  r.next (source.isTaken p) (r.countAt source p)

/-- The seat at a place of the source is taken or left. -/
def Flips (r : Rule) (source : Layout) (p : Position) : Prop :=
  source.isSeat p = true ∧ r.decision source p ≠ source.isTaken p

instance (r : Rule) (source : Layout) (p : Position) : Decidable (r.Flips source p) :=
  inferInstanceAs (Decidable (_ ∧ _))

/-- What a visit to `p` adds to the tally at `q`. -/
def credit (r : Rule) (source : Layout) (p q : Position) : Int :=
  if r.tracked = true ∧ source.isSeat p = true then
    (if q = p then (source.cached p : Int) else 0) +
      if r.Flips source p ∧ q ∈ source.adjacent p ∧ source.isSeat q = true then
        Layout.change (r.decision source p)
      else 0
  else 0

/-! ### One visit -/

/-- The target with the decision about a place written, its count carried over before. -/
def written (r : Rule) (source target : Layout) (p : Position) : Layout :=
  (if r.tracked then target.carryFrom source p else target).occupy p (r.decision source p)

/-- Floor is passed over. -/
theorem visit_of_floor (hp : source.isSeat p = false) : r.visit source s p = s := by
  simp [visit, hp]

/-- A seat that flips is written, counted and, under a tracked rule, announced. -/
theorem visit_of_flips (hp : r.Flips source p) :
    r.visit source s p =
      ⟨if r.tracked then (r.written source s.target p).announce p (r.decision source p)
        else r.written source s.target p, s.changed + 1⟩ := by
  obtain ⟨hseat, hne⟩ := hp
  unfold decision at hne
  simp [visit, hseat, hne, written, decision]

/-- A seat that stays as it is is written and nothing else. -/
theorem visit_of_seat_of_not_flips (hseat : source.isSeat p = true) (hp : ¬r.Flips source p) :
    r.visit source s p = ⟨r.written source s.target p, s.changed⟩ := by
  have heq : r.decision source p = source.isTaken p := by
    by_contra hne
    exact hp ⟨hseat, hne⟩
  unfold decision at heq
  simp [visit, hseat, heq, written, decision]

/-- A property of layouts that carrying, occupying and announcing keep is kept by a visit. -/
theorem visit_induction {P : Layout → Prop} (hcarry : ∀ g, P g → P (g.carryFrom source p))
    (hoccupy : ∀ g b, P g → P (g.occupy p b)) (hannounce : ∀ g b, P g → P (g.announce p b))
    (hs : P s.target) : P (r.visit source s p).target := by
  have hwritten : P (r.written source s.target p) := by
    unfold written
    apply hoccupy
    split
    · exact hcarry _ hs
    · exact hs
  by_cases hseat : source.isSeat p = true
  · by_cases hflips : r.Flips source p
    · rw [visit_of_flips hflips]
      simp only
      split
      · exact hannounce _ _ hwritten
      · exact hwritten
    · rw [visit_of_seat_of_not_flips hseat hflips]
      exact hwritten
  · rw [visit_of_floor (by simpa using hseat)]
    exact hs

/-- A visit leaves the outline of the target alone. -/
theorem outline_visit (r : Rule) (source : Layout) (s : Sweep) (p : Position) :
    (r.visit source s p).target.outline = s.target.outline := by
  apply visit_induction (P := fun g => g.outline = s.target.outline)
  · intro g hg
    rw [Layout.carryFrom, Layout.outline_modify, hg]
  · intro g b hg
    rw [Layout.occupy, Layout.outline_modify, hg]
  · intro g b hg
    rw [Layout.announce, Layout.outline_foldl_modify, hg]
  · rfl

/-- Writing is seen at the written place only. -/
theorem spotAt_written (r : Rule) (source target : Layout) (p q : Position) :
    (r.written source target p).spotAt q =
      if q = p then (target.spotAt q).occupy (r.decision source p) else target.spotAt q := by
  have hcarried : (if r.tracked then target.carryFrom source p else target).spotAt q =
      target.spotAt q := by
    split
    · exact Layout.spotAt_carryFrom target source p q
    · rfl
  rw [written, Layout.spotAt_occupy, hcarried]

/-- Writing carries a count to the written place, if counts are kept. -/
theorem tallyAt_written (r : Rule) (source target : Layout) (p q : Position) :
    (r.written source target p).tallyAt q =
      target.tallyAt q + if r.tracked = true ∧ q = p ∧ q ∈ target then (source.cached p : Int)
        else 0 := by
  unfold written
  rw [Layout.tallyAt_occupy]
  cases htracked : r.tracked with
  | false => simp
  | true => simpa using Layout.tallyAt_carryFrom target source p q

/-- Writing a decision leaves the floor as it was. -/
theorem sameFloor_written (r : Rule) (source target : Layout) (p : Position) :
    (r.written source target p).SameFloor target := by
  refine ⟨?_, ?_, fun q => ?_⟩
  · unfold written Layout.occupy Layout.carryFrom
    split <;> simp
  · unfold written Layout.occupy Layout.carryFrom
    split <;> simp
  · unfold Layout.isSeat
    rw [spotAt_written]
    split <;> simp

/-- A visit writes the decision about its own place, and nothing else is seen of it. -/
theorem spotAt_visit (r : Rule) (source : Layout) (s : Sweep) (p q : Position) :
    (r.visit source s p).target.spotAt q =
      if q = p ∧ source.isSeat q = true then (s.target.spotAt q).occupy (r.decision source q)
      else s.target.spotAt q := by
  have hwritten : source.isSeat p = true → (r.written source s.target p).spotAt q =
      if q = p ∧ source.isSeat q = true then (s.target.spotAt q).occupy (r.decision source q)
      else s.target.spotAt q := by
    intro hseat
    rw [spotAt_written]
    by_cases hq : q = p
    · subst hq
      rw [if_pos rfl, if_pos ⟨rfl, hseat⟩]
    · rw [if_neg hq, if_neg (fun h => hq h.1)]
  by_cases hseat : source.isSeat p = true
  · by_cases hflips : r.Flips source p
    · rw [visit_of_flips hflips, ← hwritten hseat]
      simp only
      split
      · rw [Layout.spotAt_announce]
      · rfl
    · rw [visit_of_seat_of_not_flips hseat hflips, ← hwritten hseat]
  · rw [visit_of_floor (by simpa using hseat), if_neg]
    rintro ⟨rfl, h⟩
    exact hseat h

/-- A visit leaves the floor of the target alone. -/
theorem sameFloor_visit (r : Rule) (source : Layout) (s : Sweep) (p : Position) :
    (r.visit source s p).target.SameFloor s.target := by
  have houtline := r.outline_visit source s p
  refine ⟨congrArg Prod.fst houtline, congrArg (fun o => o.2.1) houtline, fun q => ?_⟩
  unfold Layout.isSeat
  rw [spotAt_visit]
  split <;> simp

/-- A visit adds its credit to every tally. -/
theorem tallyAt_visit (hfloor : s.target.SameFloor source) (p q : Position) :
    (r.visit source s p).target.tallyAt q = s.target.tallyAt q + r.credit source p q := by
  by_cases hseat : source.isSeat p = true
  · have hmem : q = p ∧ q ∈ s.target ↔ q = p := by
      refine and_iff_left_of_imp ?_
      rintro rfl
      exact hfloor.mem_iff.2 (Layout.mem_of_isSeat hseat)
    by_cases hflips : r.Flips source p
    · rw [visit_of_flips hflips]
      simp only [credit, hseat, hflips, true_and, and_true]
      cases htracked : r.tracked with
      | false => simp [tallyAt_written, htracked]
      | true =>
        have hfloor' := (r.sameFloor_written source s.target p).trans hfloor
        rw [if_pos rfl, if_pos rfl, Layout.tallyAt_announce, tallyAt_written,
          Layout.adjacent_congr hfloor', hfloor'.isSeat, Int.add_assoc]
        simp only [hmem, htracked, true_and]
    · rw [visit_of_seat_of_not_flips hseat hflips]
      simp only [tallyAt_written, hmem, credit, hseat, hflips, and_true, false_and, if_false,
        Int.add_zero]
      cases htracked : r.tracked <;> simp
  · rw [visit_of_floor (by simpa using hseat), credit, if_neg (fun h => hseat h.2), Int.add_zero]

/-- A visit counts a flip. -/
theorem changed_visit (r : Rule) (source : Layout) (s : Sweep) (p : Position) :
    (r.visit source s p).changed = s.changed + if r.Flips source p then 1 else 0 := by
  by_cases hflips : r.Flips source p
  · rw [visit_of_flips hflips, if_pos hflips]
  · rw [if_neg hflips, Nat.add_zero]
    by_cases hseat : source.isSeat p = true
    · rw [visit_of_seat_of_not_flips hseat hflips]
    · rw [visit_of_floor (by simpa using hseat)]

/-! ### Lists of visits -/

/-- Visits leave the outline of the target alone. -/
theorem outline_foldl_visit (r : Rule) (source : Layout) (ps : List Position) (s : Sweep) :
    (ps.foldl (r.visit source) s).target.outline = s.target.outline := by
  induction ps generalizing s with
  | nil => rfl
  | cons p ps ih => rw [List.foldl_cons, ih, outline_visit]

/-- Visits leave the floor of the target alone. -/
theorem sameFloor_foldl_visit (r : Rule) (source : Layout) (ps : List Position) (s : Sweep) :
    (ps.foldl (r.visit source) s).target.SameFloor s.target := by
  induction ps generalizing s with
  | nil => exact .refl s.target
  | cons p ps ih => exact (ih _).trans (r.sameFloor_visit source s p)

/-- The places of the list show what was decided about them, all others what they showed before. -/
theorem spotAt_foldl_visit (r : Rule) (source : Layout) (ps : List Position) (s : Sweep)
    (q : Position) :
    (ps.foldl (r.visit source) s).target.spotAt q =
      if q ∈ ps ∧ source.isSeat q = true then (s.target.spotAt q).occupy (r.decision source q)
      else s.target.spotAt q := by
  induction ps generalizing s with
  | nil => simp
  | cons p ps ih =>
    rw [List.foldl_cons, ih, spotAt_visit]
    by_cases hq : q = p
    · subst hq
      by_cases hseat : source.isSeat q = true <;> simp [hseat, Spot.occupy_occupy]
    · simp [hq]

/-- Every tally has grown by the credits of the visits. -/
theorem tallyAt_foldl_visit (ps : List Position) (hfloor : s.target.SameFloor source)
    (q : Position) :
    (ps.foldl (r.visit source) s).target.tallyAt q =
      s.target.tallyAt q + (ps.map fun p => r.credit source p q).sum := by
  induction ps generalizing s with
  | nil => simp
  | cons p ps ih =>
    have hfloor' := (r.sameFloor_visit source s p).trans hfloor
    rw [List.foldl_cons, ih hfloor', tallyAt_visit hfloor, List.map_cons, List.sum_cons,
      Int.add_assoc]

/-- Every flip among the visits has been counted. -/
theorem changed_foldl_visit (r : Rule) (source : Layout) (ps : List Position) (s : Sweep) :
    (ps.foldl (r.visit source) s).changed =
      s.changed + ps.countP fun p => r.Flips source p := by
  induction ps generalizing s with
  | nil => rfl
  | cons p ps ih =>
    rw [List.foldl_cons, ih, changed_visit, List.countP_cons]
    simp only [decide_eq_true_iff]
    omega

/-! ### All places -/

/-- A flip is announced as the difference that it makes. -/
theorem flips_change (r : Rule) (source : Layout) (p : Position) :
    (if r.Flips source p then Layout.change (r.decision source p) else 0) =
      (if source.isSeat p && r.decision source p then 1 else 0) -
        if source.isTaken p then 1 else 0 := by
  by_cases hseat : source.isSeat p = true
  · by_cases hnext : r.decision source p = true <;> by_cases htaken : source.isTaken p = true <;>
      simp [Flips, hseat, hnext, htaken, Layout.change]
  · have htaken : ¬source.isTaken p = true := fun h => hseat (Layout.isSeat_of_isTaken h)
    simp [Flips, hseat, htaken]

/-- Floor gets no credit. -/
theorem credit_of_floor (hq : source.isSeat q = false) (p : Position) :
    r.credit source p q = 0 := by
  unfold credit
  split
  · next hp =>
    have hne : q ≠ p := by
      rintro rfl
      rw [hp.2] at hq
      cases hq
    simp [hne, hq]
  · rfl

/-- Without tallies there are no credits. -/
theorem credit_of_not_tracked (htracked : r.tracked = false) (p q : Position) :
    r.credit source p q = 0 := by
  simp [credit, htracked]

/-- What a seat is credited by a visit: its old count by the visit to itself, and the change of a seat
around that flips, because the places around are around each other. -/
theorem credit_eq (htracked : r.tracked = true) (hq : source.isSeat q = true) (p : Position) :
    r.credit source p q = (if q = p then (source.cached p : Int) else 0) +
      if p ∈ Mode.adjacent.near source q then
        (if r.Flips source p then Layout.change (r.decision source p) else 0) else 0 := by
  by_cases hp : source.isSeat p = true
  · have hcomm : q ∈ source.adjacent p ↔ p ∈ Mode.adjacent.near source q := by
      rw [Mode.mem_near]
      exact Mode.mem_neighbors_comm (m := .adjacent) hp hq
    rw [credit, if_pos ⟨htracked, hp⟩]
    simp only [hcomm, hq, and_true]
    simp only [and_comm, ite_and]
  · have hne : q ≠ p := by
      rintro rfl
      exact hp hq
    rw [credit, if_neg (fun h => hp h.2), if_neg hne, if_neg (fun h : r.Flips source p => hp h.1)]
    simp

/-- Over all places the credits of a seat are its old count and the changes of the people around, each
announced to the seat once. -/
theorem sum_credit (htracked : r.tracked = true) (hq : source.isSeat q = true) :
    ∑ p ∈ source.places, r.credit source p q =
      source.cached q + ∑ p ∈ Mode.adjacent.near source q,
        ((if source.isSeat p && r.decision source p then 1 else 0) -
          if source.isTaken p then 1 else 0) := by
  have hnear : {p ∈ source.places | p ∈ Mode.adjacent.near source q} =
      Mode.adjacent.near source q := by
    ext p
    simp only [Finset.mem_filter, Layout.mem_places, Mode.mem_near, and_iff_right_iff_imp]
    exact Mode.mem_of_mem_neighbors
  rw [Finset.sum_congr rfl fun p _ => credit_eq htracked hq p, Finset.sum_add_distrib,
    Finset.sum_ite_eq, if_pos (Layout.mem_places.2 (Layout.mem_of_isSeat hq)), ← Finset.sum_filter,
    hnear]
  exact congrArg _ (Finset.sum_congr rfl fun p _ => flips_change r source p)

end WaitingRoom.Rule
