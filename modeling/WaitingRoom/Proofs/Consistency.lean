import WaitingRoom.Proofs.Scripts

/-!
# What the comparison of tallies with counts overlooks

Tallies are compared with counts as they are read, and a negative tally reads as zero. So the comparison
is weaker than a comparison of what is stored.

* **`Layout.SeatsExact`**: every seat has the number of people around it as its tally, sign included.
  That is so exactly when a recount leaves all seats as they are (`Layout.seatsExact_iff_recount`).
* **`Layout.talliesAgree_iff`**: what `Layout.TalliesAgree` says of the stored tallies. Beyond exact ones
  it allows negative tallies of seats with nobody around, and nothing else.
* **`Layout.Operation.Leaving`**: only an announcement that somebody left can bring a tally below zero. The
  comparison is exact after all scripts without one (`Layout.performAll_talliesAgree_iff`), but not after
  all scripts (`Layout.talliesAgree_early_leaving`).
-/

namespace WaitingRoom.Layout

variable {g h : Layout} {p : Position}

/-! ### What is stored and what is read -/

/-- Every seat has the number of people around it as its tally. -/
def SeatsExact (g : Layout) : Prop :=
  ∀ p ∈ g, g.isSeat p = true → g.tallyAt p = g.adjacentOccupied p

/-- A recount leaves exactly the seats alone that have their counts. -/
theorem cell?_recount_eq_iff (hp : g.isSeat p = true) :
    g.recount.cell? p = g.cell? p ↔ g.tallyAt p = g.adjacentOccupied p := by
  have hmem := mem_of_isSeat hp
  rw [cell?_eq_views (g.sameFloor_recount.mem_iff.2 hmem), cell?_eq_views hmem, spotAt_recount,
    tallyAt_recount, if_pos hp, Option.some.injEq, Cell.mk.injEq]
  exact (and_iff_right rfl).trans eq_comm

/-- Seats are exact when counting leaves their cells as they are. -/
theorem seatsExact_iff_recount :
    g.SeatsExact ↔ ∀ p ∈ g, g.isSeat p = true → g.recount.cell? p = g.cell? p :=
  forall₂_congr fun _ _ => imp_congr_right fun hseat => (cell?_recount_eq_iff hseat).symm

/-- A count is read off its tally, or off any tally below zero if it is none. -/
theorem cached_eq_iff (n : Nat) :
    g.cached p = n ↔ g.tallyAt p = n ∨ g.tallyAt p < 0 ∧ n = 0 := by
  rw [cached]
  omega

/-- Agreement of what is read: a seat with people around it has exactly its count stored, and a seat with
nobody around it has zero or any negative number. -/
theorem talliesAgree_iff :
    g.TalliesAgree ↔ ∀ p ∈ g, g.isSeat p = true →
      g.tallyAt p = g.adjacentOccupied p ∨ g.tallyAt p < 0 ∧ g.adjacentOccupied p = 0 := by
  simp only [TalliesAgree, mem_positions, cached_eq_iff]

/-- So it is the sign of a tally that the comparison overlooks. -/
theorem TalliesAgree.seatsExact_iff (hg : g.TalliesAgree) :
    g.SeatsExact ↔ ∀ p ∈ g, g.isSeat p = true → 0 ≤ g.tallyAt p := by
  constructor
  · intro hexact p hp hseat
    rw [hexact p hp hseat]
    exact Int.natCast_nonneg _
  · intro hnonneg p hp hseat
    refine (talliesAgree_iff.1 hg p hp hseat).resolve_right fun hneg => ?_
    exact absurd hneg.1 (Int.not_lt.2 (hnonneg p hp hseat))

/-- Exact tallies agree with the counts. -/
theorem SeatsExact.talliesAgree (hg : g.SeatsExact) : g.TalliesAgree :=
  talliesAgree_iff.2 fun p hp hseat => .inl (hg p hp hseat)

/-! ### Scripts without leavings -/

/-- No place has a tally below zero. -/
def Nonnegative (g : Layout) : Prop := ∀ p, 0 ≤ g.tallyAt p

/-- Where nothing is tallied no tally is below zero. -/
theorem Unused.nonnegative (hg : g.Unused) : g.Nonnegative := by
  intro p
  by_cases hp : p ∈ g
  · obtain ⟨c, hc⟩ := exists_cell?_eq hp
    have hstored : c ∈ g.cells := Array.mem_of_getElem? ((cell?_of_mem hp).symm.trans hc)
    rw [tallyAt_of_cell? hc, (hg c hstored).2]
  · rw [tallyAt_of_not_mem hp]

/-- With no tally below zero the check misses nothing. -/
theorem Nonnegative.seatsExact_iff (hg : g.Nonnegative) : g.SeatsExact ↔ g.TalliesAgree :=
  ⟨SeatsExact.talliesAgree, fun hagree => hagree.seatsExact_iff.2 fun p _ _ => hg p⟩

/-- The operation announces that somebody left. -/
def Operation.Leaving (operation : Operation) : Prop := ∃ p, operation = .announce p false

/-- Announcing that somebody sat down lowers no tally. -/
theorem Nonnegative.checkedAnnounceAlong (hg : g.Nonnegative) (p : Position) (ds : List Direction) :
    (g.checkedAnnounceAlong p true ds).1.Nonnegative := by
  induction ds generalizing g with
  | nil => exact hg
  | cons d ds ih =>
    rw [Layout.checkedAnnounceAlong]
    split
    · exact hg
    · exact ih hg
    · next q _ =>
      split
      · exact hg
      · apply ih
        intro s
        have hs := hg s
        rw [tallyAt_modify_creditSeat]
        split
        · exact Int.add_nonneg hs (by decide)
        · omega

/-- Counting leaves no tally below zero. -/
theorem nonnegative_recount (g : Layout) : g.recount.Nonnegative := by
  intro p
  rw [tallyAt_recount]
  split <;> omega

/-- All other operations keep tallies from falling below zero. -/
theorem Nonnegative.perform {operation : Operation} (hg : g.Nonnegative)
    (hstay : ¬operation.Leaving) (hh : g.perform operation = .ok h) : h.Nonnegative := by
  cases operation with
  | occupy p b =>
    cases hh
    intro q
    rw [tallyAt_occupy]
    exact hg q
  | carry source p =>
    rw [Layout.perform, checkedCarryFrom] at hh
    split at hh <;> cases hh
    intro q
    have hq := hg q
    rw [tallyAt_carryFrom]
    split <;> omega
  | announce p b =>
    cases b with
    | false => exact absurd ⟨p, rfl⟩ hstay
    | true =>
      rw [Layout.perform] at hh
      cases hend : (g.checkedAnnounce p true).2 with
      | error e =>
        rw [hend] at hh
        cases hh
      | ok =>
        rw [hend] at hh
        cases hh
        exact hg.checkedAnnounceAlong p Direction.all
  | clearTallies =>
    cases hh
    intro q
    rw [tallyAt_clearTallies]
  | recount =>
    cases hh
    exact g.nonnegative_recount
  | simulate r ticks =>
    cases hh
    rw [Simulation.intoLayout_eq_current, Simulation.current_after_start, Rule.kept]
    split
    · exact nonnegative_recount _
    · intro q
      rw [r.generation_eq_seated, tallyAt_seated]
      exact hg q

/-- A script in which no leaving is announced leaves no tally below zero. -/
theorem Nonnegative.performAll {script : List Operation} (hg : g.Nonnegative)
    (hstay : ∀ operation ∈ script, ¬operation.Leaving) (hh : g.performAll script = .ok h) :
    h.Nonnegative := by
  induction script generalizing g with
  | nil =>
    cases hh
    exact hg
  | cons operation script ih =>
    rw [List.forall_mem_cons] at hstay
    rw [Layout.performAll, List.foldlM_cons] at hh
    cases hnext : g.perform operation with
    | error e =>
      rw [hnext] at hh
      cases hh
    | ok next =>
      rw [hnext] at hh
      exact ih (hg.perform hstay.1 hnext) hstay.2 hh

/-- **What agreement of tallies and counts is worth.** Read a plan and do to it whatever can be done. The
tallies then agree with the counts exactly when every seat has its count stored, or has nobody around
and a negative number stored. All seats have their counts stored exactly when a recount leaves them as
they are, and on tallies that agree, exactly when none of them is negative. Where nobody was announced to
have left, agreement says that all seats have their counts stored. -/
theorem performAll_talliesAgree_iff {lines : List String} {script : List Operation}
    (hg : ofLines lines = .ok g) (hh : g.performAll script = .ok h) :
    (h.TalliesAgree ↔ ∀ p ∈ h, h.isSeat p = true →
        h.tallyAt p = h.adjacentOccupied p ∨ h.tallyAt p < 0 ∧ h.adjacentOccupied p = 0) ∧
      (h.SeatsExact ↔ ∀ p ∈ h, h.isSeat p = true → h.recount.cell? p = h.cell? p) ∧
      (h.TalliesAgree → (h.SeatsExact ↔ ∀ p ∈ h, h.isSeat p = true → 0 ≤ h.tallyAt p)) ∧
      ((∀ operation ∈ script, ¬operation.Leaving) → (h.SeatsExact ↔ h.TalliesAgree)) :=
  ⟨talliesAgree_iff, seatsExact_iff_recount, TalliesAgree.seatsExact_iff, fun hstay =>
    ((unused_of_ofRows hg).nonnegative.performAll hstay hh).seatsExact_iff⟩

/-- A bench of two. -/
def benchForTwo : Layout := ofWidth 2 |>.pushRow ['L', 'L']

/-- Somebody sits down and announces it. -/
theorem performAll_talliesAgree_iff_arrival :
    ofLines ["LL"] = .ok benchForTwo ∧
      ∃ h, benchForTwo.performAll [.occupy ⟨0, 0⟩ true, .announce ⟨0, 0⟩ true] = .ok h ∧
        h.tallyAt ⟨0, 1⟩ = 1 ∧ h.SeatsExact := by
  have hread : ofLines ["LL"] = .ok benchForTwo := rfl
  have hscript : benchForTwo.performAll [.occupy ⟨0, 0⟩ true, .announce ⟨0, 0⟩ true] = .ok _ := rfl
  obtain ⟨-, -, -, harrivals⟩ := performAll_talliesAgree_iff hread hscript
  refine ⟨hread, _, hscript, by decide +kernel, (harrivals ?_).2 (by decide +kernel)⟩
  simp [Operation.Leaving]

/-- The bench with nobody on it and a tally of minus one on the second seat. -/
def toldBench : Layout := benchForTwo.modify ⟨0, 1⟩ (Cell.credit (-1))

/-- Midway through a tick in which somebody leaves a bench, the seat beside has been told and has not yet
got its old count of one. It has a tally of minus one and nobody around: that passes for agreement,
though a recount changes the seat. -/
theorem talliesAgree_early_leaving :
    ofLines ["LL"] = .ok benchForTwo ∧
      benchForTwo.performAll [.occupy ⟨0, 0⟩ true, .recount, .clearTallies, .occupy ⟨0, 0⟩ false,
        .announce ⟨0, 0⟩ false] = .ok toldBench ∧
      toldBench.TalliesAgree ∧ toldBench.isSeat ⟨0, 1⟩ = true ∧
      toldBench.tallyAt ⟨0, 1⟩ = -1 ∧ toldBench.adjacentOccupied ⟨0, 1⟩ = 0 ∧
      toldBench.recount.cell? ⟨0, 1⟩ ≠ toldBench.cell? ⟨0, 1⟩ ∧ ¬toldBench.SeatsExact := by
  refine ⟨rfl, by decide +kernel, by decide +kernel, by decide +kernel, by decide +kernel,
    by decide +kernel, by decide +kernel, fun hexact => ?_⟩
  exact absurd (hexact ⟨0, 1⟩ (by decide +kernel) (by decide +kernel)) (by decide +kernel)

end WaitingRoom.Layout
