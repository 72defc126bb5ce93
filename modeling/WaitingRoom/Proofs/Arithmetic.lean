import WaitingRoom.Proofs.Brink
import WaitingRoom.Proofs.Moments
import WaitingRoom.Proofs.Scripts

/-!
# Ticks in machine words

The operations on whole layouts, and ticks, with every sum made in machine words. All of them visit
places inside the walls only, and tallies stay small while they do, so none of them runs out of
numbers.

* **`Layout.checkedRecount`**, **`Layout.checkedTalliesAgree`**, **`Simulation.checkedStart`**,
  **`Simulation.checkedTick`**: the exact namesakes, in the order of their work, up to the first sum
  without a value.
* **`Layout.Measured`**: what is true of a layout that a machine holds. The numbers of its rows, columns
  and stored cells are machine words.
* **`Rule.CountedBy`**: how a rule that keeps no tallies is counted with machine words.
* **`Simulation.checkedTick_after_start`**: no tick fails, as long as the ticks can be counted.
* **`Layout.overflow_iff_outermost`**: where sums have no value, and where they always have one.
-/

namespace WaitingRoom

/-- Steps that all pass lead where the exact steps lead. -/
theorem foldlM_ok {α β ε : Type} {f : β → α → Except ε β} {f' : β → α → β} (l : List α) (b : β)
    (h : ∀ l₁ a l₂, l = l₁ ++ a :: l₂ → f (l₁.foldl f' b) a = .ok (f' (l₁.foldl f' b) a)) :
    l.foldlM f b = .ok (l.foldl f' b) := by
  induction l generalizing b with
  | nil => rfl
  | cons a l ih =>
    have hfirst : f b a = .ok (f' b a) := h [] a l rfl
    rw [List.foldlM_cons, hfirst, List.foldl_cons]
    apply ih
    rintro l₁ a' l₂ rfl
    exact h (a :: l₁) a' l₂ rfl

/-- So do checks of all elements. -/
theorem allM_ok {α ε : Type} {f : α → Except ε Bool} {f' : α → Bool} {l : List α}
    (h : ∀ a ∈ l, f a = .ok (f' a)) : l.allM f = .ok (l.all f') := by
  induction l with
  | nil => rfl
  | cons a l ih =>
    rw [List.forall_mem_cons] at h
    rw [List.allM, h.1, List.all_cons]
    cases f' a with
    | true => exact ih h.2
    | false => rfl

/-- One more, unless there is no larger number. -/
def checkedSucc (n : Nat) : Except Overflow Nat :=
  if n < Position.maxCoordinate then .ok (n + 1) else .error .counter

namespace Layout

variable {g : Layout} {p : Position}

/-! ### Counting all seats -/

/-- The layout with a number added to the tally of the seat at a place, if there is one. -/
def checkedCreditSeat (g : Layout) (p : Position) (n : Int) : Except Overflow Layout :=
  if g.isSeat p = true ∧ ¬RepresentableTally (g.tallyAt p + n) then .error .tally
  else .ok (g.modify p (Cell.creditSeat n))

/-- The layout with all seats counted afresh. -/
def checkedRecount (g : Layout) : Except Overflow Layout :=
  g.positions.foldlM (fun h p => do h.checkedCreditSeat p (← Mode.adjacent.checkedOccupied g p))
    g.clearTallies

/-- Whether every seat reads what counting gives. Counting ends with the first seat that does not. -/
def checkedTalliesAgree (g : Layout) : Except Overflow Bool :=
  (g.positions.filter (g.isSeat ·)).allM fun p =>
    (g.cached p == ·) <$> Mode.adjacent.checkedOccupied g p

/-- When a walk over all places reaches one, no place has been visited twice. -/
theorem nodup_and_mem_of_positions_eq {ps qs : List Position} (h : g.positions = ps ++ p :: qs) :
    ps.Nodup ∧ p ∈ g := by
  have hall := g.nodup_positions
  rw [h] at hall
  refine ⟨(List.nodup_append.1 hall).1, ?_⟩
  rw [← mem_positions, h]
  exact List.mem_append_right ps List.mem_cons_self

/-- Small tallies can take small numbers. -/
theorem representableTally_of_natAbs {m n : Int} (hm : m.natAbs ≤ 1000) (hn : n.natAbs ≤ 1000) :
    RepresentableTally (m + n) :=
  ⟨by omega, by omega⟩

/-- Counting all seats never fails. -/
theorem checkedRecount_eq (hg : g.Fits) : g.checkedRecount = .ok g.recount := by
  apply foldlM_ok
  intro ps p qs hpositions
  obtain ⟨hps, hp⟩ := nodup_and_mem_of_positions_eq hpositions
  have htally : ((ps.foldl (fun h p => h.modify p (Cell.creditSeat (g.adjacentOccupied p)))
      g.clearTallies).tallyAt p).natAbs ≤ 8 := by
    have hcount := g.adjacentOccupied_le p
    rw [tallyAt_foldl_creditSeat (fun p => g.adjacentOccupied p) hps, tallyAt_clearTallies]
    split <;> omega
  have hcount : (g.adjacentOccupied p : Int).natAbs ≤ 8 := g.adjacentOccupied_le p
  have hcounted : Mode.adjacent.checkedOccupied g p = .ok (g.adjacentOccupied p) :=
    Mode.checkedOccupied_eq hg hp .adjacent
  rw [hcounted]
  exact if_neg fun h => h.2 (representableTally_of_natAbs (by omega) (by omega))

/-- Comparing tallies with counts never fails. -/
theorem checkedTalliesAgree_eq (hg : g.Fits) :
    g.checkedTalliesAgree = .ok (decide g.TalliesAgree) := by
  have hcounted : ∀ p ∈ g.positions.filter (g.isSeat ·),
      (g.cached p == ·) <$> Mode.adjacent.checkedOccupied g p =
        .ok (g.cached p == g.adjacentOccupied p) := by
    intro p hp
    rw [Mode.checkedOccupied_eq hg (mem_positions.1 (List.mem_of_mem_filter hp))]
    rfl
  rw [checkedTalliesAgree, allM_ok hcounted, Except.ok.injEq, Bool.eq_iff_iff, decide_eq_true_iff]
  simp [TalliesAgree, or_iff_not_imp_left]

end Layout

/-! ### Ticks -/

namespace Rule

/-- Counting with machine words gives what a rule counts inside the walls, if it counts at all and does
not read tallies. -/
def CountedBy (r : Rule) (count : Layout → Position → Except Overflow Nat) : Prop :=
  r.tracked = false → ∀ g : Layout, g.Fits → ∀ p ∈ g, count g p = .ok (r.occupied g p)

/-- Carries the count of a place over, if tallies are kept. -/
def checkedCarry (r : Rule) (source target : Layout) (p : Position) : Except Overflow Layout :=
  if r.tracked then target.checkedCarryFrom source p else .ok target

/-- The count that decides about a place. -/
def checkedCount (r : Rule) (count : Layout → Position → Except Overflow Nat) (source : Layout)
    (p : Position) : Except Overflow Nat :=
  if r.tracked then .ok (source.cached p) else count source p

/-- Tells the seats around a place of a change, if tallies are kept. -/
def checkedTell (r : Rule) (target : Layout) (p : Position) (occupied : Bool) :
    Except Overflow Layout :=
  if r.tracked then target.perform (.announce p occupied) else .ok target

/-- Decides about one place. -/
def checkedVisit (r : Rule) (count : Layout → Position → Except Overflow Nat) (source : Layout) :
    Sweep → Position → Except Overflow Sweep
  | ⟨target, changed⟩, p =>
    if source.isSeat p then do
      let carried ← r.checkedCarry source target p
      let counted ← r.checkedCount count source p
      let taken := source.isTaken p
      let next := r.next taken counted
      let written := carried.occupy p next
      if next = taken then return ⟨written, changed⟩
      else
        let changed ← checkedSucc changed
        let told ← r.checkedTell written p next
        return ⟨told, changed⟩
    else .ok ⟨target, changed⟩

/-- Decides about the places one after another. -/
def checkedSweep (r : Rule) (count : Layout → Position → Except Overflow Nat)
    (source target : Layout) (places : List Position) : Except Overflow Sweep :=
  places.foldlM (r.checkedVisit count source) { target, changed := 0 }

end Rule

namespace Simulation

/-- The simulation of a room before its first tick. -/
def checkedStart (rule : Rule) (g : Layout) : Except Overflow Simulation := do
  let latest ← if rule.tracked then g.checkedRecount else .ok g
  return {
    rule
    buffers := #v[latest, if rule.tracked then g.clearTallies else g]
    index := 0
    index_lt := Nat.zero_lt_two
    ticks := 0 }

/-- The simulation after the buffers took turns. The index is subtracted from one, which has no value
for indices above one. -/
def checkedSwap (s : Simulation) : Except Overflow Simulation :=
  if s.index ≤ 1 then .ok s.swap else .error .index

/-- One tick, and the number of seats that changed. -/
def checkedTick (s : Simulation) (count : Layout → Position → Except Overflow Nat) :
    Except Overflow (Simulation × Nat) := do
  let (source, target) := s.readWrite
  let sweep ← s.rule.checkedSweep count source target source.positions
  let read := if s.rule.tracked then source.clearTallies else source
  let swapped ← (s.putBack read sweep.target).checkedSwap
  let ticks ← checkedSucc s.ticks
  return ({ swapped with ticks }, sweep.changed)

end Simulation

/-! ### No sum of a tick fails -/

/-- A layout that a machine holds: the numbers of its rows, columns and stored cells are machine
words. -/
structure Layout.Measured (g : Layout) : Prop where
  /-- The numbers of rows and columns are machine words. -/
  fits : g.Fits
  /-- So is the number of stored cells. -/
  size : g.cells.size ≤ Position.maxCoordinate

/-- Edits keep to what a machine holds. -/
theorem Layout.Measured.edited {g h : Layout} (hg : g.Measured) (hh : g.Edited h) : h.Measured := by
  have hframe := hh.sameFrame
  refine ⟨?_, ?_⟩
  · rw [Fits, hframe.rows, hframe.cols]
    exact hg.fits
  · rw [hframe.size]
    exact hg.size

namespace Rule

variable {r : Rule} {count : Layout → Position → Except Overflow Nat} {source target : Layout}
  {s : Sweep} {p : Position}

/-- The rule of a mode is counted by the mode. -/
theorem countedBy_of_mode (m : Mode) : m.rule.CountedBy m.checkedOccupied :=
  fun _ _ hg _ hp => Mode.checkedOccupied_eq hg hp m

/-- The sums of a tracked rule stay small: the source holds counts, and the target what is left of
them and of the changes around. -/
def Small (r : Rule) (source target : Layout) : Prop :=
  r.tracked = true → source.TalliesWithin 0 8 ∧ target.TalliesWithin (-8) 16

/-- A small tally can take a count. -/
theorem checkedCarry_eq (hsmall : r.Small source target) (p : Position) :
    r.checkedCarry source target p =
      .ok (if r.tracked then target.carryFrom source p else target) := by
  unfold checkedCarry
  split
  · next htracked =>
    obtain ⟨hsource, htarget⟩ := hsmall htracked
    have hcount := hsource.tallyAt (by decide) (by decide) p
    have htally := htarget.tallyAt (by decide) (by decide) p
    have hsum : RepresentableTally (target.tallyAt p + source.cached p) := by
      apply Layout.representableTally_of_natAbs
      · omega
      · rw [Layout.cached]
        omega
    exact if_neg fun h => h.2 hsum
  · rfl

/-- The count of a place inside the walls never fails. -/
theorem checkedCount_eq (hcount : r.CountedBy count) (hfits : source.Fits) (hp : p ∈ source) :
    r.checkedCount count source p = .ok (r.countAt source p) := by
  unfold checkedCount countAt
  split
  · rfl
  · next huntracked => exact hcount (by simpa using huntracked) source hfits p hp

/-- Small tallies can take a change, also when a count was carried there before. -/
theorem checkedTell_written_eq (hsmall : r.Small source target) (hfits : source.Fits)
    (hfloor : target.SameFloor source) (hp : p ∈ source) (b : Bool) :
    r.checkedTell (r.written source target p) p b =
      .ok (if r.tracked then (r.written source target p).announce p b
        else r.written source target p) := by
  unfold checkedTell
  split
  · next htracked =>
    obtain ⟨hsource, htarget⟩ := hsmall htracked
    have hfloor' := (r.sameFloor_written source target p).trans hfloor
    have hfits' : (r.written source target p).Fits := by
      rwa [Layout.Fits, hfloor'.rows, hfloor'.cols]
    have htally : ∀ q, ((r.written source target p).tallyAt q).natAbs + 8 < 0x8000000000000000 := by
      intro q
      have hcount := hsource.tallyAt (by decide) (by decide) p
      have hbefore := htarget.tallyAt (by decide) (by decide) q
      rw [tallyAt_written, Layout.cached]
      split <;> omega
    rw [Layout.perform, Layout.checkedAnnounce_eq hfits' (hfloor'.mem_iff.2 hp) b htally]
    rfl
  · rfl

/-- A visit never fails while tallies are small and not all numbers have been used for counting. -/
theorem checkedVisit_eq (hcount : r.CountedBy count) (hsmall : r.Small source s.target)
    (hfits : source.Fits) (hfloor : s.target.SameFloor source) (hp : p ∈ source)
    (hchanged : s.changed < Position.maxCoordinate) :
    r.checkedVisit count source s p = .ok (r.visit source s p) := by
  obtain ⟨target, changed⟩ := s
  by_cases hseat : source.isSeat p = true
  · have hwritten : (if r.tracked then target.carryFrom source p else target).occupy p
        (r.next (source.isTaken p) (r.countAt source p)) = r.written source target p := rfl
    have htold := checkedTell_written_eq hsmall hfits hfloor hp
    have hsucc : checkedSucc changed = .ok (changed + 1) := if_pos hchanged
    simp only [checkedVisit, visit, hseat, if_true, checkedCarry_eq hsmall,
      checkedCount_eq hcount hfits hp, bind, Except.bind, hwritten]
    split
    · rfl
    · rw [hsucc, htold]
      rfl
  · have hfloor : source.isSeat p = false := by simpa using hseat
    simp only [checkedVisit, visit, hfloor, Bool.false_eq_true, if_false]

/-- A sweep over all places never fails: no more seats can change than there are stored cells. -/
theorem checkedSweep_eq (hcount : r.CountedBy count) (hsource : source.Measured)
    (hfloor : target.SameFloor source)
    (htallies : r.tracked = true → source.TalliesWithin 0 8 ∧ target.NoTallies) :
    r.checkedSweep count source target source.positions =
      .ok (r.sweep source target source.positions) := by
  apply foldlM_ok
  intro ps p qs hpositions
  obtain ⟨hps, hp⟩ := Layout.nodup_and_mem_of_positions_eq hpositions
  have hsmall : r.Small source (r.sweep source target ps).target := by
    intro htracked
    obtain ⟨hcounts, hnone⟩ := htallies htracked
    rw [target_sweep_eq_foldl_write hfloor]
    exact ⟨hcounts, talliesWithin_foldl_write hcounts hnone hps (List.prefix_refl _)⟩
  have hchanged : (r.sweep source target ps).changed < Position.maxCoordinate :=
    calc (r.sweep source target ps).changed
        ≤ ps.length := by rw [changed_sweep]; exact List.countP_le_length
      _ < source.positions.length := by rw [hpositions]; simp
      _ = source.rows * source.cols := source.length_positions
      _ ≤ source.cells.size := source.covers
      _ ≤ Position.maxCoordinate := hsource.size
  exact checkedVisit_eq hcount hsmall hsource.fits
    ((r.sameFloor_sweep source target ps).trans hfloor) hp hchanged

end Rule

namespace Simulation

variable {r : Rule} {count : Layout → Position → Except Overflow Nat} {g : Layout}

/-- Starting a simulation never fails. -/
theorem checkedStart_eq (r : Rule) (hg : g.Fits) : checkedStart r g = .ok (start r g) := by
  unfold checkedStart start
  cases r.tracked with
  | true => simp only [if_true, Layout.checkedRecount_eq hg, bind, Except.bind]; rfl
  | false => rfl

/-- The index is never above one, and so the buffers can always take turns. -/
theorem checkedSwap_eq (s : Simulation) : s.checkedSwap = .ok s.swap :=
  if_pos (Nat.le_of_lt_succ s.index_lt)

/-- The index tells whether the number of ticks is even or odd. -/
theorem index_after_start (r : Rule) (g : Layout) (k : Nat) :
    ((start r g).after k).index = k % 2 := by
  rw [after_start, index_stored]

/-- What is in a buffer has the size of the room. -/
theorem measured_after_start (hg : g.Measured) {k : Nat} {buffer : Layout}
    (hbuffer : buffer ∈ ((start r g).after k).buffers) : buffer.Measured :=
  hg.edited (edited_buffer hbuffer)

/-- No tick fails, as long as ticks can be counted. -/
theorem checkedTick_after_start (hcount : r.CountedBy count) (hg : g.Measured) {k : Nat}
    (hk : k < Position.maxCoordinate) :
    ((start r g).after k).checkedTick count = .ok ((start r g).after k).tick := by
  have hrule : ((start r g).after k).rule = r := by rw [after_start, rule_stored]
  have hticks : ((start r g).after k).ticks = k := by rw [after_start, ticks_stored]
  have htallies : r.tracked = true → ((start r g).after k).current.TalliesWithin 0 8 ∧
      ((start r g).after k).previous.NoTallies := by
    intro htracked
    obtain ⟨hexact, hnone, -⟩ := talliesExact_after_start r htracked g k
    exact ⟨hexact.within, hnone⟩
  have hsweep := Rule.checkedSweep_eq hcount (hg.edited (edited_current r g k))
    (sameFloor_previous_after r g k) htallies
  have hsucc : checkedSucc k = .ok (k + 1) := if_pos hk
  simp only [checkedTick, tick, readWrite_eq, hrule, hticks, hsweep, checkedSwap_eq, hsucc, bind,
    Except.bind]
  rfl

end Simulation

/-! ### Where sums have values -/

/-- **Only the outermost positions run out of numbers.** For any layout that a machine holds, with any
tallies, and any position inside or outside of it: looking around in either mode fails exactly if one of
the coordinates is the largest there is, and gives the exact answer otherwise; so does an announcement,
unless a seat around has a tally that cannot take the change. No place has an index that is no machine
word, and counting all seats, comparing tallies with counts and starting a simulation never fail. After
any number of ticks the buffers can take turns, and if the ticks can be counted, the next one does not
fail either; if the rule keeps tallies, then all stored tallies lie between minus eight and sixteen at
every moment of it. -/
theorem Layout.overflow_iff_outermost {g : Layout} (hg : g.Measured) :
    (∀ p : Position, p.Representable →
      g.checkedAdjacent p = (if p.Outermost then .error .coordinate else .ok (g.adjacent p)) ∧
      (∀ m : Mode, m.checkedOccupied g p =
        if p.Outermost then .error .coordinate else .ok (m.occupied g p)) ∧
      ∀ b, (g.checkedAnnounce p b).2 = (if p.Outermost then .error .coordinate else .ok ()) ∨
        (g.checkedAnnounce p b).2 = .error .tally ∧ ∃ q ∈ g.adjacent p, g.isSeat q = true ∧
          ¬RepresentableTally (g.tallyAt q + change b)) ∧
    (∀ p ∈ g, g.index p ≤ Position.maxCoordinate) ∧
    g.checkedRecount = .ok g.recount ∧
    g.checkedTalliesAgree = .ok (decide g.TalliesAgree) ∧
    ∀ (r : Rule) (count : Layout → Position → Except Overflow Nat), r.CountedBy count →
      Simulation.checkedStart r g = .ok (.start r g) ∧
      ∀ k, let s := (Simulation.start r g).after k
        (∀ buffer ∈ s.buffers, buffer.Measured) ∧
        s.index = k % 2 ∧ s.checkedSwap = .ok s.swap ∧
        (k < Position.maxCoordinate → s.checkedTick count = .ok s.tick) ∧
        s.Moment s.current s.previous ∧ s.Moment s.tick.1.previous s.tick.1.current ∧
        (r.tracked = true → ∀ source target, s.Moment source target →
          source.TalliesWithin (-8) 16 ∧ target.TalliesWithin (-8) 16) := by
  refine ⟨fun p hp => ⟨checkedAdjacent_eq_ite hp, Mode.checkedOccupied_eq_ite hg.fits hp,
    checkedAnnounce_outcome hp g⟩, fun p hp => ?_, checkedRecount_eq hg.fits,
    checkedTalliesAgree_eq hg.fits, fun r count hcount =>
      ⟨Simulation.checkedStart_eq r hg.fits, fun k => ?_⟩⟩
  · exact (index_lt_size hp).le.trans hg.size
  · exact ⟨fun _ => Simulation.measured_after_start hg, Simulation.index_after_start r g k,
      Simulation.checkedSwap_eq _, Simulation.checkedTick_after_start hcount hg,
      Simulation.moment_start _, Simulation.moment_tick (Simulation.sameFloor_previous_after r g k),
      fun htracked source target => Simulation.talliesWithin_moment htracked⟩

/-- A bench of two, of which the second seat has the largest tally there is. -/
def brimmingBench : Layout :=
  (Layout.ofWidth 2 |>.pushRow ['L', 'L']).modify ⟨0, 1⟩ (Cell.credit 0x7fffffffffffffff)

/-- Nobody can sit down beside that seat, and nobody can look around from the last column of all.
Between the bench and that column they can, and a simulation makes its ticks on the bench as on any
other. -/
theorem Layout.overflow_iff_outermost_brimmingBench :
    brimmingBench.Measured ∧
      (brimmingBench.checkedAnnounce ⟨0, 0⟩ true).2 = .error .tally ∧
      (brimmingBench.checkedAnnounce ⟨0, Position.maxCoordinate⟩ true).2 = .error .coordinate ∧
      Mode.visible.checkedOccupied brimmingBench ⟨0, Position.maxCoordinate⟩ = .error .coordinate ∧
      Mode.visible.checkedOccupied brimmingBench ⟨0, Position.maxCoordinate - 1⟩ = .ok 0 ∧
      brimmingBench.checkedRecount = .ok brimmingBench.recount ∧
      ∀ m : Mode, ((Simulation.start m.rule brimmingBench).after 3).checkedTick m.checkedOccupied =
        .ok ((Simulation.start m.rule brimmingBench).after 3).tick := by
  have hmeasured : brimmingBench.Measured := ⟨by decide +kernel, by decide +kernel⟩
  obtain ⟨hposition, -, hrecount, -, hticks⟩ := Layout.overflow_iff_outermost hmeasured
  obtain ⟨-, hlast, hannounce⟩ := hposition ⟨0, Position.maxCoordinate⟩ (by decide +kernel)
  obtain ⟨-, hbefore, -⟩ := hposition ⟨0, Position.maxCoordinate - 1⟩ (by decide +kernel)
  have hnobody : brimmingBench.adjacent ⟨0, Position.maxCoordinate⟩ = [] := by decide +kernel
  refine ⟨hmeasured, by decide +kernel, ?_, ?_, ?_, hrecount, fun m => ?_⟩
  · rcases hannounce true with hout | ⟨-, q, hq, -⟩
    · exact hout.trans (by decide +kernel)
    · rw [hnobody] at hq
      cases hq
  · exact (hlast .visible).trans (by decide +kernel)
  · exact (hbefore .visible).trans (by decide +kernel)
  · obtain ⟨-, hafter⟩ := hticks m.rule m.checkedOccupied (Rule.countedBy_of_mode m)
    obtain ⟨-, -, -, htick, -⟩ := hafter 3
    exact htick (by decide)

end WaitingRoom
