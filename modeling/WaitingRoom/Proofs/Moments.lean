import WaitingRoom.Proofs.Midway

/-!
# A tick, one write at a time

Within a tick the buffers are in states that no visit ends with: a count has been carried over and the
seat not yet written, or some of the seats around have been told and others not. Here a tick is taken
apart into writes to single cells, and the tallies are bounded at every moment between two of them.

* **`Write`**, **`Layout.write`**, **`Rule.writes`**: what a visit writes, cell by cell. All writes of a
  sweep leave its target (`Rule.target_sweep_eq_foldl_write`).
* **`Simulation.Moment`**: the two buffers at some moment of a tick. The first moment is the state
  before the tick, and the last is the state after it (`Simulation.moment_start`,
  `Simulation.moment_tick`).
* **`Write.carried`**, **`Write.tells`**: what writes can do to the tally of a place. Some of the writes
  of a sweep have moved it down by at most the times that it was told, and up by at most that and the
  count carried to it (`Layout.tallyAt_foldl_write`).
* **`Simulation.talliesWithin_moment`**: so at every moment of a tick all stored tallies lie between
  minus eight and sixteen.
-/

namespace WaitingRoom

/-! ### Writes -/

/-- What a tick does to one cell of the target. -/
inductive Write where
  /-- A count is added to the tally of a place. -/
  | carry (p : Position) (count : Nat)
  /-- The seat at a place is taken or left. -/
  | occupy (p : Position) (occupied : Bool)
  /-- The seat at a place is told that somebody sat down or left around it. -/
  | tell (p : Position) (occupied : Bool)

namespace Write

/-- What a write carries to a place. -/
def carried (q : Position) : Write → Nat
  | carry p count => if p = q then count else 0
  | occupy _ _ | tell _ _ => 0

/-- Whether a write tells the seat at a place something. -/
def tells (q : Position) : Write → Bool
  | tell p _ => p = q
  | carry _ _ | occupy _ _ => false

end Write

namespace Layout

variable {g h : Layout}

/-- The layout after one write. -/
def write (g : Layout) : Write → Layout
  | .carry p count => g.modify p (Cell.credit count)
  | .occupy p occupied => g.occupy p occupied
  | .tell p occupied => g.modify p (Cell.creditSeat (change occupied))

/-- Writes leave the outline alone. -/
theorem outline_foldl_write (ws : List Write) (g : Layout) :
    (ws.foldl write g).outline = g.outline := by
  induction ws generalizing g with
  | nil => rfl
  | cons w ws ih =>
    rw [List.foldl_cons, ih]
    cases w <;> exact outline_modify _ _ _

/-- One write moves a tally down by one at most, and only if its seat is told, and up by at most that
and what is carried to it. -/
theorem tallyAt_write (g : Layout) (w : Write) (q : Position) :
    g.tallyAt q - (if w.tells q then 1 else 0) ≤ (g.write w).tallyAt q ∧
      (g.write w).tallyAt q ≤ g.tallyAt q + w.carried q + if w.tells q then 1 else 0 := by
  cases w with
  | carry p count =>
    rw [write, tallyAt_modify_credit]
    by_cases hq : q = p
    · subst hq
      simp only [Write.tells, Write.carried, true_and, if_true, Bool.false_eq_true, if_false]
      split <;> omega
    · simp [Write.tells, hq]
  | occupy p b =>
    rw [write, tallyAt_occupy]
    simp [Write.tells]
  | tell p b =>
    rw [write, tallyAt_modify_creditSeat]
    by_cases hq : q = p
    · subst hq
      have hchange : -1 ≤ change b ∧ change b ≤ 1 := by cases b <;> decide
      simp only [Write.tells, Write.carried, true_and, decide_true, if_true]
      split <;> omega
    · simp [Write.tells, hq, Ne.symm hq]

/-- What any writes have done to a tally: it has gone down by at most the times that its seat was told,
and up by at most that and what was carried to it. -/
theorem tallyAt_foldl_write (ws : List Write) (g : Layout) (q : Position) :
    g.tallyAt q - ws.countP (Write.tells q) ≤ (ws.foldl write g).tallyAt q ∧
      (ws.foldl write g).tallyAt q ≤
        g.tallyAt q + (ws.map (Write.carried q)).sum + ws.countP (Write.tells q) := by
  induction ws generalizing g with
  | nil => simp
  | cons w ws ih =>
    have hw := g.tallyAt_write w q
    have hws := ih (g.write w)
    rw [List.foldl_cons, List.countP_cons, List.map_cons, List.sum_cons]
    cases htells : w.tells q with
    | true =>
      simp only [htells, if_true] at hw ⊢
      omega
    | false =>
      simp only [htells, Bool.false_eq_true, if_false] at hw ⊢
      omega

end Layout

namespace Rule

variable {r : Rule} {source : Layout} {s : Sweep} {p q : Position} {ps : List Position}

/-- What a visit writes, in order: the carried count, the decision, and what the seats around are told
if the seat flips. -/
def writes (r : Rule) (source : Layout) (p : Position) : List Write :=
  if source.isSeat p then
    (if r.tracked then [.carry p (source.cached p)] else []) ++
      .occupy p (r.decision source p) ::
        if r.tracked = true ∧ r.Flips source p then
          (source.adjacent p).map (.tell · (r.decision source p))
        else []
  else []

/-- A visit is its writes. -/
theorem target_visit_eq_foldl_write (hfloor : s.target.SameFloor source) (p : Position) :
    (r.visit source s p).target = (r.writes source p).foldl Layout.write s.target := by
  by_cases hseat : source.isSeat p = true
  · have hwritten : r.written source s.target p =
        ((if r.tracked then [Write.carry p (source.cached p)] else []) ++
          [Write.occupy p (r.decision source p)]).foldl Layout.write s.target := by
      unfold written
      split <;> rfl
    by_cases hflips : r.Flips source p
    · have hadjacent := Layout.adjacent_congr ((r.sameFloor_written source s.target p).trans hfloor) p
      rw [visit_of_flips hflips, writes, if_pos hseat, List.append_cons, List.foldl_append, ← hwritten]
      simp only [hflips, and_true]
      split
      · rw [Layout.announce, hadjacent, List.foldl_map]
        rfl
      · rfl
    · have hnone : ¬(r.tracked = true ∧ r.Flips source p) := fun h => hflips h.2
      rw [visit_of_seat_of_not_flips hseat hflips, writes, if_pos hseat, if_neg hnone, hwritten]
  · rw [visit_of_floor (by simpa using hseat), writes, if_neg hseat, List.foldl_nil]

/-- So is a sweep. -/
theorem target_sweep_eq_foldl_write {target : Layout} (hfloor : target.SameFloor source)
    (ps : List Position) :
    (r.sweep source target ps).target =
      (ps.flatMap (r.writes source)).foldl Layout.write target := by
  have hvisits : ∀ s : Sweep, s.target.SameFloor source →
      (ps.foldl (r.visit source) s).target =
        (ps.flatMap (r.writes source)).foldl Layout.write s.target := by
    induction ps with
    | nil => exact fun s _ => rfl
    | cons p ps ih =>
      intro s hs
      rw [List.foldl_cons, List.flatMap_cons, List.foldl_append, ← target_visit_eq_foldl_write hs]
      exact ih _ ((r.sameFloor_visit source s p).trans hs)
  exact hvisits ⟨target, 0⟩ hfloor

/-! ### What a sweep writes to one place -/

/-- A visit carries to no other place than its own. -/
theorem sum_carried_writes_le (r : Rule) (source : Layout) (p q : Position) :
    ((r.writes source p).map (Write.carried q)).sum ≤
      if p = q ∧ source.isSeat p = true then source.cached p else 0 := by
  by_cases hseat : source.isSeat p = true
  · have htold : ∀ b, (((source.adjacent p).map (Write.tell · b)).map (Write.carried q)).sum = 0 := by
      intro b
      rw [List.map_map]
      exact List.sum_eq_zero fun n hn => by
        obtain ⟨_, -, rfl⟩ := List.mem_map.1 hn
        rfl
    rw [writes, if_pos hseat, List.map_append, List.sum_append, List.map_cons, List.sum_cons]
    cases r.tracked <;> by_cases hflips : r.Flips source p <;>
      simp only [hflips, htold, hseat, Write.carried, List.map_cons, List.map_nil, List.sum_cons,
        List.sum_nil, if_true, if_false, Bool.false_eq_true, and_true, and_false, Nat.add_zero,
        Nat.zero_le, le_refl]
  · simp [writes, hseat]

/-- A visit to a seat tells the places around, each once. -/
theorem countP_tells_writes_le (r : Rule) (source : Layout) (p q : Position) :
    (r.writes source p).countP (Write.tells q) ≤
      if source.isSeat p = true ∧ q ∈ source.adjacent p then 1 else 0 := by
  by_cases hseat : source.isSeat p = true
  · have htold : ∀ b, ((source.adjacent p).map (Write.tell · b)).countP (Write.tells q) =
        if q ∈ source.adjacent p then 1 else 0 := by
      intro b
      rw [List.countP_map]
      exact (Mode.adjacent.nodup_neighbors source p).count
    rw [writes, if_pos hseat, List.countP_append, List.countP_cons]
    cases r.tracked <;> by_cases hflips : r.Flips source p <;>
      simp [hflips, htold, hseat, Write.tells]
  · simp [writes, hseat]

/-- The writes of a sweep over distinct places carry to the seats among them their counts, and nothing
anywhere else. -/
theorem sum_carried_flatMap_le (r : Rule) (source : Layout) (hps : ps.Nodup) (q : Position) :
    ((ps.flatMap (r.writes source)).map (Write.carried q)).sum ≤
      if q ∈ ps ∧ source.isSeat q = true then source.cached q else 0 := by
  induction ps with
  | nil => simp
  | cons p ps ih =>
    obtain ⟨hp, hps⟩ := List.nodup_cons.1 hps
    have hfirst := r.sum_carried_writes_le source p q
    have hrest := ih hps
    rw [List.flatMap_cons, List.map_append, List.sum_append]
    by_cases hq : p = q
    · subst hq
      simp only [hp, false_and, if_false, true_and, List.mem_cons, true_or] at hfirst hrest ⊢
      omega
    · simp only [hq, Ne.symm hq, false_and, if_false, List.mem_cons, false_or] at hfirst hrest ⊢
      omega

/-- They tell a place something at most once from each seat around it. -/
theorem countP_tells_flatMap_le (r : Rule) (source : Layout) (hps : ps.Nodup) (q : Position) :
    (ps.flatMap (r.writes source)).countP (Write.tells q) ≤ 8 := by
  have hvisits : (ps.flatMap (r.writes source)).countP (Write.tells q) ≤
      (ps.filter fun p => source.isSeat p = true ∧ q ∈ source.adjacent p).length := by
    rw [← List.countP_eq_length_filter]
    clear hps
    induction ps with
    | nil => simp
    | cons p ps ih =>
      have hfirst := r.countP_tells_writes_le source p q
      rw [List.flatMap_cons, List.countP_append, List.countP_cons]
      simp only [decide_eq_true_eq]
      omega
  have haround : (ps.filter fun p => source.isSeat p = true ∧ q ∈ source.adjacent p) ⊆
      source.adjacent q := by
    intro p hp
    simp only [List.mem_filter, decide_eq_true_eq] at hp
    exact Mode.mem_neighbors_symm (m := .adjacent) hp.2.1 hp.2.2
  calc _ ≤ _ := hvisits
    _ ≤ (source.adjacent q).length := ((hps.filter _).subperm haround).length_le
    _ ≤ 8 := source.length_adjacent_le q

end Rule

/-! ### All stored tallies -/

namespace Layout

variable {g : Layout} {lo hi : Int}

/-- Every stored tally lies between two numbers, those of floor and surplus cells too. -/
def TalliesWithin (g : Layout) (lo hi : Int) : Prop := ∀ c ∈ g.cells, lo ≤ c.tally ∧ c.tally ≤ hi

instance (g : Layout) (lo hi : Int) : Decidable (g.TalliesWithin lo hi) :=
  inferInstanceAs (Decidable (∀ c ∈ g.cells, _))

/-- Bounds on the tallies of places and of the surplus are bounds on all. -/
theorem talliesWithin_of_views (hplaces : ∀ p ∈ g, lo ≤ g.tallyAt p ∧ g.tallyAt p ≤ hi)
    (hsurplus : ∀ c ∈ g.surplus, lo ≤ c.tally ∧ c.tally ≤ hi) : g.TalliesWithin lo hi := by
  intro c hc
  obtain ⟨i, hi⟩ := Array.mem_iff_getElem?.1 hc
  rcases place_or_surplus hi with ⟨p, hp, -, hcell⟩ | hrest
  · rw [← tallyAt_of_cell? hcell]
    exact hplaces p hp
  · exact hsurplus c hrest

/-- Bounds may be widened. -/
theorem TalliesWithin.mono {lo' hi' : Int} (hg : g.TalliesWithin lo hi) (hlo : lo' ≤ lo)
    (hhi : hi ≤ hi') : g.TalliesWithin lo' hi' :=
  fun c hc => ⟨hlo.trans (hg c hc).1, (hg c hc).2.trans hhi⟩

/-- So does what is read, where a place outside the walls reads as zero. -/
theorem TalliesWithin.tallyAt (hg : g.TalliesWithin lo hi) (hlo : lo ≤ 0) (hhi : 0 ≤ hi)
    (p : Position) : lo ≤ g.tallyAt p ∧ g.tallyAt p ≤ hi := by
  by_cases hp : p ∈ g
  · obtain ⟨c, hc⟩ := exists_cell?_eq hp
    rw [tallyAt_of_cell? hc]
    rw [cell?_of_mem hp] at hc
    exact hg c (Array.mem_of_getElem? hc)
  · rw [tallyAt_of_not_mem hp]
    exact ⟨hlo, hhi⟩

/-- Exact tallies are counts of eight people at most. -/
theorem TalliesExact.within (hg : g.TalliesExact) : g.TalliesWithin 0 8 := by
  intro c hc
  obtain ⟨i, hi⟩ := Array.mem_iff_getElem?.1 hc
  by_cases hseat : ∃ p ∈ g, g.isSeat p = true ∧ g.index p = i
  · obtain ⟨p, hp, hseat, rfl⟩ := hseat
    have hcount := g.adjacentOccupied_le p
    rw [← cell?_of_mem hp] at hi
    rw [← tallyAt_of_cell? hi, hg.seat p hp hseat]
    omega
  · rw [hg.other i c hi fun p hp hp' hindex => hseat ⟨p, hp, hp', hindex⟩]
    decide

/-- The layout with the tallies of the first `n` stored cells forgotten. -/
def clearFirst (g : Layout) (n : Nat) : Layout :=
  { g with
    cells := g.cells.mapIdx fun i c => if i < n then c.clear else c
    covers := by rw [Array.size_mapIdx]; exact g.covers }

/-- To clear as many cells as there are is to forget all tallies. -/
theorem clearFirst_size (g : Layout) : g.clearFirst g.cells.size = g.clearTallies := by
  have hcells : (g.cells.mapIdx fun i c => if i < g.cells.size then c.clear else c) =
      g.cells.map Cell.clear := by
    apply Array.ext (by simp)
    intro i hi _
    rw [Array.size_mapIdx] at hi
    simp [hi]
  simp only [clearFirst, clearTallies, mapCells, hcells]

/-- Clearing some cells keeps to bounds around zero. -/
theorem TalliesWithin.clearFirst (hg : g.TalliesWithin lo hi) (hlo : lo ≤ 0) (hhi : 0 ≤ hi)
    (n : Nat) : (g.clearFirst n).TalliesWithin lo hi := by
  intro c hc
  obtain ⟨i, hi', rfl⟩ := Array.mem_mapIdx.1 hc
  split
  · exact ⟨hlo, hhi⟩
  · exact hg _ (Array.getElem_mem hi')

end Layout

/-- At any moment of a sweep, the tallies of the target lie between minus eight and sixteen: a place
is told something eight times at most, and gets a count of eight at most. -/
theorem Rule.talliesWithin_foldl_write {r : Rule} {source target : Layout} {ps : List Position}
    {ws : List Write} (hsource : source.TalliesWithin 0 8) (htarget : target.NoTallies)
    (hps : ps.Nodup) (hws : ws <+: ps.flatMap (r.writes source)) :
    (ws.foldl Layout.write target).TalliesWithin (-8) 16 := by
  apply Layout.talliesWithin_of_views
  · intro q _
    obtain ⟨hlo, hhi⟩ := Layout.tallyAt_foldl_write ws target q
    have htold := (hws.sublist.countP_le (p := Write.tells q)).trans (r.countP_tells_flatMap_le source hps q)
    have hcarried : (ws.map (Write.carried q)).sum ≤ 8 := by
      have hread := hsource.tallyAt (by decide) (by decide) q
      have hall := r.sum_carried_flatMap_le source hps q
      obtain ⟨rest, hrest⟩ := hws
      rw [← hrest, List.map_append, List.sum_append] at hall
      unfold Layout.cached at hall
      split at hall <;> omega
    rw [htarget.tallyAt] at hlo hhi
    omega
  · intro c hc
    have houtline := congrArg (fun o => o.2.2) (Layout.outline_foldl_write ws target)
    simp only [Layout.outline] at houtline
    rw [houtline] at hc
    rw [htarget c (Array.mem_toList_iff.1 (List.mem_of_mem_drop hc))]
    decide

/-! ### The moments of a tick -/

namespace Simulation

/-- The two buffers at some moment of a tick, the one that is read and the one that is written: the tick
has made some of its writes, or it has made them all and forgotten some of the tallies that it read. -/
inductive Moment (s : Simulation) : Layout → Layout → Prop
  | writing (ws : List Write) (hws : ws <+: s.current.positions.flatMap (s.rule.writes s.current)) :
      Moment s s.current (ws.foldl Layout.write s.previous)
  | clearing (htracked : s.rule.tracked = true) (n : Nat) :
      Moment s (s.current.clearFirst n) s.tick.1.current

/-- The first moment of a tick finds the buffers as they were. -/
theorem moment_start (s : Simulation) : s.Moment s.current s.previous :=
  .writing [] List.nil_prefix

/-- The buffers that a tick leaves are those of its last moment. -/
theorem moment_tick {s : Simulation} (hfloor : s.previous.SameFloor s.current) :
    s.Moment s.tick.1.previous s.tick.1.current := by
  cases htracked : s.rule.tracked with
  | true =>
    have hlast : s.tick.1.previous = s.current.clearFirst s.current.cells.size := by
      rw [Layout.clearFirst_size, previous_tick, if_pos htracked]
    rw [hlast]
    exact .clearing htracked _
  | false =>
    have hsource : s.tick.1.previous = s.current := by rw [previous_tick, htracked]; rfl
    rw [hsource, current_tick, Rule.target_sweep_eq_foldl_write hfloor]
    exact .writing _ (List.prefix_refl _)

/-- The buffers have the same floor after any number of ticks. -/
theorem sameFloor_previous_after (r : Rule) (g : Layout) (k : Nat) :
    ((start r g).after k).previous.SameFloor ((start r g).after k).current := by
  obtain ⟨X, hX⟩ := r.exists_seated_eq_generation g (k - 1) k
  rw [previous_after_start, current_after_start, hX]
  exact r.sameFloor_spare_kept _ X

/-- Under a tracked rule all tallies lie between minus eight and sixteen, at every moment of every
tick. -/
theorem talliesWithin_moment {r : Rule} (htracked : r.tracked = true) {g : Layout} {k : Nat}
    {source target : Layout} (hmoment : ((start r g).after k).Moment source target) :
    source.TalliesWithin (-8) 16 ∧ target.TalliesWithin (-8) 16 := by
  have hsource : ∀ j, ((start r g).after j).current.TalliesWithin 0 8 := fun j =>
    (talliesExact_after_start r htracked g j).1.within
  cases hmoment with
  | writing ws hws =>
    exact ⟨(hsource k).mono (by decide) (by decide),
      Rule.talliesWithin_foldl_write (hsource k) (talliesExact_after_start r htracked g k).2.1
        (Layout.nodup_positions _) hws⟩
  | clearing _ n =>
    exact ⟨((hsource k).clearFirst (by decide) (by decide) n).mono (by decide) (by decide),
      (hsource (k + 1)).mono (by decide) (by decide)⟩

end Simulation

end WaitingRoom
