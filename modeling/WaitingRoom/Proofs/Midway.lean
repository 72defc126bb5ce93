import WaitingRoom.Proofs.Ticks

/-!
# A sweep broken off midway

A tick decides about the places row by row, but nothing in a visit depends on that order. Here a sweep
over any list of places is compared with what the source alone says of them.

* **`Rule.sweep_perm`**: sweeps over the same places in another order leave the same target and count
  the same changes.
* **`Rule.upcoming`**, **`Rule.flipped`**: what becomes of a place by a count made afresh, and which
  places of a list flip. On exact tallies that is what visits decide (`Rule.decision_eq_upcoming`,
  `Rule.flips_iff_upcoming`).
* **`Rule.sum_credit_of_nodup`**: what a seat has been credited by a list of visits.
* **`Rule.sweep_midway`**: the whole state after any list of visits.
-/

namespace WaitingRoom

/-- A seat shows who sits on it, whoever sat there before. -/
theorem Spot.occupy_of_isSeat {s : Spot} (hs : s.isSeat = true) (b : Bool) :
    s.occupy b = if b = true then taken else free := by
  cases s with
  | floor => cases hs
  | free => cases b <;> rfl
  | taken => cases b <;> rfl

namespace Layout

variable {g : Layout} {p : Position}

/-- Where no cell has a tally none is read. -/
theorem NoTallies.tallyAt (hg : g.NoTallies) (p : Position) : g.tallyAt p = 0 := by
  by_cases hp : p ∈ g
  · obtain ⟨c, hc⟩ := exists_cell?_eq hp
    rw [tallyAt_of_cell? hc]
    exact hg c (Array.mem_of_getElem? ((cell?_of_mem hp).symm.trans hc))
  · exact tallyAt_of_not_mem hp

end Layout

namespace Rule

variable {r : Rule} {source target : Layout} {p q : Position} {ps qs : List Position}

/-! ### What a sweep leaves -/

/-- A sweep leaves the outline of the target alone. -/
theorem outline_sweep (r : Rule) (source target : Layout) (ps : List Position) :
    (r.sweep source target ps).target.outline = target.outline :=
  r.outline_foldl_visit source ps ⟨target, 0⟩

/-- A sweep leaves the floor of the target alone. -/
theorem sameFloor_sweep (r : Rule) (source target : Layout) (ps : List Position) :
    (r.sweep source target ps).target.SameFloor target :=
  r.sameFloor_foldl_visit source ps ⟨target, 0⟩

/-- The seats that were visited show what was decided, all else is as before. -/
theorem spotAt_sweep (r : Rule) (source target : Layout) (ps : List Position) (q : Position) :
    (r.sweep source target ps).target.spotAt q =
      if q ∈ ps ∧ source.isSeat q = true then (target.spotAt q).occupy (r.decision source q)
      else target.spotAt q :=
  r.spotAt_foldl_visit source ps ⟨target, 0⟩ q

/-- Every visit adds its credit. -/
theorem tallyAt_sweep (hfloor : target.SameFloor source) (ps : List Position) (q : Position) :
    (r.sweep source target ps).target.tallyAt q =
      target.tallyAt q + (ps.map fun p => r.credit source p q).sum :=
  tallyAt_foldl_visit ps hfloor q

/-- A sweep counts the flips. -/
theorem changed_sweep (r : Rule) (source target : Layout) (ps : List Position) :
    (r.sweep source target ps).changed = ps.countP fun p => r.Flips source p :=
  (r.changed_foldl_visit source ps ⟨target, 0⟩).trans (Nat.zero_add _)

/-- In whatever order places are visited, a sweep leaves the same: what stands at a place depends on
whether it was visited, and tallies and changes are sums over the visits. -/
theorem sweep_perm (hfloor : target.SameFloor source) (hperm : ps.Perm qs) :
    r.sweep source target ps = r.sweep source target qs := by
  have htarget : (r.sweep source target ps).target = (r.sweep source target qs).target := by
    refine Layout.eq_of_views ?_ (fun q => ?_) (fun q => ?_)
    · rw [outline_sweep, outline_sweep]
    · rw [spotAt_sweep, spotAt_sweep]
      simp only [hperm.mem_iff]
    · rw [tallyAt_sweep hfloor, tallyAt_sweep hfloor, (hperm.map _).sum_eq]
  have hchanged : (r.sweep source target ps).changed = (r.sweep source target qs).changed := by
    rw [changed_sweep, changed_sweep, hperm.countP_eq]
  cases hp : r.sweep source target ps
  cases hq : r.sweep source target qs
  rw [hp, hq] at htarget hchanged
  rw [Sweep.mk.injEq]
  exact ⟨htarget, hchanged⟩

/-- A sweep leaves every stored cell alone that is no seat of a place. -/
theorem getElem?_sweep_of_ne_index (hfloor : target.SameFloor source) {i : Nat}
    (hi : ∀ p ∈ source, source.isSeat p = true → source.index p ≠ i) :
    (r.sweep source target ps).target.cells[i]? = target.cells[i]? := by
  have hswept := r.sameFloor_sweep source target ps
  apply Layout.getElem?_cells_congr (r.outline_sweep source target ps)
  intro p hp hindex
  have hseat : source.isSeat p = false := by
    by_contra hseat
    rw [Bool.not_eq_false] at hseat
    refine hi p (Layout.mem_of_isSeat hseat) hseat ?_
    rw [← hindex, Layout.index, Layout.index, (hswept.trans hfloor).cols]
  have hspot : (r.sweep source target ps).target.spotAt p = target.spotAt p := by
    rw [spotAt_sweep, if_neg (by simp [hseat])]
  have htally : (r.sweep source target ps).target.tallyAt p = target.tallyAt p := by
    rw [tallyAt_sweep hfloor]
    simp [credit_of_floor hseat]
  rw [Layout.cell?_eq_views hp, Layout.cell?_eq_views (hswept.mem_iff.1 hp), hspot, htally]

/-! ### What the source says -/

/-- Whether a seat is taken next, by the people around it. -/
def upcoming (r : Rule) (source : Layout) (p : Position) : Bool :=
  r.next (source.isTaken p) (source.adjacentOccupied p)

/-- The seats among some places that are taken or left next. -/
def flipped (r : Rule) (source : Layout) (ps : List Position) : Finset Position :=
  {p ∈ ps.toFinset | source.isSeat p = true ∧ r.upcoming source p ≠ source.isTaken p}

section exact

variable (htracked : r.tracked = true)
  (hexact : ∀ p ∈ source, source.isSeat p = true → source.tallyAt p = source.adjacentOccupied p)

include hexact in
/-- On exact tallies a count is read off. -/
theorem cached_of_exact (hp : source.isSeat p = true) :
    source.cached p = source.adjacentOccupied p := by
  rw [Layout.cached, hexact p (Layout.mem_of_isSeat hp) hp, Int.toNat_natCast]

include htracked hexact

/-- A rule decides by the people around. -/
theorem decision_eq_upcoming (hp : source.isSeat p = true) :
    r.decision source p = r.upcoming source p := by
  rw [decision, countAt, if_pos htracked, cached_of_exact hexact hp, upcoming]

/-- A seat flips when that is not what it is. -/
theorem flips_iff_upcoming :
    r.Flips source p ↔ source.isSeat p = true ∧ r.upcoming source p ≠ source.isTaken p := by
  refine and_congr_right fun hp => ?_
  rw [decision_eq_upcoming htracked hexact hp]

/-- What visits to distinct places have credited a seat with: its old count if it was among them, and
the changes of those around it that flipped. -/
theorem sum_credit_of_nodup (hps : ps.Nodup) (hq : source.isSeat q = true) :
    (ps.map fun p => r.credit source p q).sum =
      (if q ∈ ps then source.tallyAt q else 0) +
        ∑ p ∈ r.flipped source ps with p ∈ source.adjacent q,
          if r.upcoming source p = true then 1 else -1 := by
  have hcarried : (source.cached q : Int) = source.tallyAt q := by
    rw [cached_of_exact hexact hq, hexact q (Layout.mem_of_isSeat hq) hq]
  have htold : ∀ p, (if p ∈ Mode.adjacent.near source q then
      (if r.Flips source p then Layout.change (r.decision source p) else 0) else 0) =
      if (source.isSeat p = true ∧ r.upcoming source p ≠ source.isTaken p) ∧
        p ∈ source.adjacent q then (if r.upcoming source p = true then 1 else -1) else 0 := by
    intro p
    have hnear : p ∈ Mode.adjacent.near source q ↔ p ∈ source.adjacent q := Mode.mem_near
    simp only [hnear, ← flips_iff_upcoming htracked hexact]
    by_cases hflips : r.Flips source p
    · simp only [hflips, if_true, true_and, decision_eq_upcoming htracked hexact hflips.1,
        Layout.change]
    · simp only [hflips, if_false, false_and, ite_self]
  rw [← List.sum_toFinset _ hps, Finset.sum_congr rfl fun p _ => credit_eq htracked hq p,
    Finset.sum_add_distrib, Finset.sum_ite_eq, Finset.sum_congr rfl fun p _ => htold p,
    ← Finset.sum_filter, hcarried, flipped, Finset.filter_filter]
  simp only [List.mem_toFinset]

end exact

/-- **A sweep broken off midway.** Let the seats of the source have exact tallies and let the target
have the same floor, anybody seated and no tallies. After visits to any distinct places under a
tracked rule the floor is the same, each seat among them is taken or free as its count in the source
decides, and all other places show what they showed. The tally of a seat is its count in the source,
if it was visited, with one more or one less for each visited seat around it that was taken or left.
Every stored cell that is no seat of a place is as it was, without a tally. The changes counted are
the visited seats that flipped, and visits in any other order lead to the same. -/
theorem sweep_midway (htracked : r.tracked = true)
    (hexact : ∀ p ∈ source, source.isSeat p = true → source.tallyAt p = source.adjacentOccupied p)
    (hfloor : target.SameFloor source) (hnone : target.NoTallies) (hps : ps.Nodup) :
    let swept := r.sweep source target ps
    swept.target.SameFloor source ∧
      (∀ q ∈ ps, source.isSeat q = true →
        swept.target.spotAt q = if r.upcoming source q = true then .taken else .free) ∧
      (∀ q, ¬(q ∈ ps ∧ source.isSeat q = true) → swept.target.spotAt q = target.spotAt q) ∧
      (∀ q, source.isSeat q = true → swept.target.tallyAt q =
        (if q ∈ ps then source.tallyAt q else 0) +
          ∑ p ∈ r.flipped source ps with p ∈ source.adjacent q,
            if r.upcoming source p = true then 1 else -1) ∧
      (∀ i, (∀ p ∈ source, source.isSeat p = true → source.index p ≠ i) →
        swept.target.cells[i]? = target.cells[i]? ∧
          ∀ c, swept.target.cells[i]? = some c → c.tally = 0) ∧
      swept.changed = (r.flipped source ps).card ∧
      ∀ qs, qs.Perm ps → r.sweep source target qs = swept := by
  intro swept
  have hspot : ∀ q, swept.target.spotAt q = _ := r.spotAt_sweep source target ps
  have htally : ∀ q, swept.target.tallyAt q = _ := tallyAt_sweep hfloor ps
  refine ⟨(r.sameFloor_sweep source target ps).trans hfloor, fun q hq hseat => ?_, fun q hq => ?_,
    fun q hseat => ?_, fun i hi => ?_, ?_, ?_⟩
  · have hkept : (target.spotAt q).isSeat = true := (hfloor.isSeat q).trans hseat
    rw [hspot, if_pos ⟨hq, hseat⟩, decision_eq_upcoming htracked hexact hseat,
      Spot.occupy_of_isSeat hkept]
  · rw [hspot, if_neg hq]
  · rw [htally, hnone.tallyAt, Int.zero_add, sum_credit_of_nodup htracked hexact hps hseat]
  · have hsame : swept.target.cells[i]? = target.cells[i]? := getElem?_sweep_of_ne_index hfloor hi
    refine ⟨hsame, fun c hc => ?_⟩
    rw [hsame] at hc
    exact hnone c (Array.mem_of_getElem? hc)
  · have hset : r.flipped source ps = (ps.filter fun p => r.Flips source p).toFinset := by
      ext p
      simp [flipped, flips_iff_upcoming htracked hexact]
    rw [hset, List.toFinset_card_of_nodup (hps.filter _), ← List.countP_eq_length_filter]
    exact r.changed_sweep source target ps
  · intro qs hperm
    exact sweep_perm hfloor hperm

/-- A rule under which nobody stays beside anybody. -/
def shy : Rule := .standard 1 Mode.adjacent.occupied true

/-- A row of three seats with people on the first two. -/
def pairInRow : Layout := (Layout.ofWidth 3 |>.pushRow ['L', 'L', 'L']).seated {⟨0, 0⟩, ⟨0, 1⟩}

/-- Visited alone, the second seat is left and has its old count, while the seats beside it have been
told before their own counts are carried over. Visits from the last seat to the first lead where those
from the first to the last do. -/
theorem sweep_midway_pairInRow :
    let source := pairInRow.recount
    let target := (pairInRow.seated {⟨0, 2⟩}).clearTallies
    shy.tracked = true ∧
      (∀ p ∈ source, source.isSeat p = true → source.tallyAt p = source.adjacentOccupied p) ∧
      target.SameFloor source ∧ target.NoTallies ∧ [(⟨0, 1⟩ : Position)].Nodup ∧
      (shy.sweep source target [⟨0, 1⟩]).target.spotAt ⟨0, 1⟩ = .free ∧
      (shy.sweep source target [⟨0, 1⟩]).target.spotAt ⟨0, 2⟩ = .taken ∧
      (shy.sweep source target [⟨0, 1⟩]).target.tallyAt ⟨0, 0⟩ = -1 ∧
      (shy.sweep source target [⟨0, 1⟩]).target.tallyAt ⟨0, 1⟩ = 1 ∧
      (shy.sweep source target [⟨0, 1⟩]).changed = 1 ∧
      shy.sweep source target [⟨0, 2⟩, ⟨0, 1⟩, ⟨0, 0⟩] =
        shy.sweep source target [⟨0, 0⟩, ⟨0, 1⟩, ⟨0, 2⟩] := by
  intro source target
  have hexact := (Layout.talliesExact_recount pairInRow).seat
  have hseated := pairInRow.sameFloor_seated {⟨0, 2⟩}
  have hfloor : target.SameFloor source :=
    (Layout.sameFloor_clearTallies _).trans (hseated.trans pairInRow.sameFloor_recount.symm)
  have hnone : target.NoTallies := Layout.noTallies_clearTallies _
  have hone : [(⟨0, 1⟩ : Position)].Nodup := List.nodup_singleton _
  obtain ⟨-, hnext, hspot, htally, -, hchanged, -⟩ :=
    sweep_midway (r := shy) rfl hexact hfloor hnone hone
  have hall : [(⟨0, 0⟩ : Position), ⟨0, 1⟩, ⟨0, 2⟩].Nodup := by decide
  obtain ⟨-, -, -, -, -, -, horder⟩ := sweep_midway (r := shy) rfl hexact hfloor hnone hall
  refine ⟨rfl, hexact, hfloor, hnone, hone, ?_, ?_, ?_, ?_, hchanged.trans ?_, horder _ ?_⟩
  · exact (hnext ⟨0, 1⟩ (by decide) (by decide +kernel)).trans (by decide +kernel)
  · exact (hspot ⟨0, 2⟩ (by decide)).trans (by decide +kernel)
  · exact (htally ⟨0, 0⟩ (by decide +kernel)).trans (by decide +kernel)
  · exact (htally ⟨0, 1⟩ (by decide +kernel)).trans (by decide +kernel)
  · decide +kernel
  · decide

end Rule

end WaitingRoom
