import WaitingRoom.Layout.Checked
import WaitingRoom.Proofs.Plans
import WaitingRoom.Proofs.Ticks

/-!
# What no operation changes

A layout is handed around: people sit down and leave, tallies are carried, announced, forgotten and
counted afresh, and simulations run on it. Its walls and its furniture stay where they are.

* **`Flags.occupyEach`**: flags after people sat down and left. The floor flag stays, and nobody is left
  on the floor (`Flags.orderly_occupyEach`): the guard sees to it every time, whatever the flags were.
* **`Layout.Operation`**, **`Layout.perform`**, **`Layout.performAll`**: what can be done to a layout,
  and a script of it. Sums are made in machine words, so a script may end in an overflow.
* **`Layout.Edited`**: what all operations come down to: cells of places are changed, their flags through
  the guard only, and tallies of any cells are changed. Every operation is such an edit
  (`Layout.edited_perform`), and so are both buffers of a simulation (`Simulation.edited_buffer`).
* **`Layout.SameFrame`**, **`Layout.GuardedSince`**, **`Layout.NobodyAstray`**: what edits keep
  (`Layout.Edited.sameFrame`), what they do to flags (`Layout.Edited.guardedSince`) and what follows
  from that (`Layout.GuardedSince.nobodyAstray`).
* **`Layout.performAll_frame`**: so whole scripts keep it, and at every moment of a simulation under
  way both buffers do. Without tracking, a simulation leaves every stored tally alone.
-/

namespace WaitingRoom

/-! ### Flags and the guard -/

namespace Flags

/-- The flags after somebody sat down or left, one wish after another. Each of them passes the guard. -/
def occupyEach (wishes : List Bool) (f : Flags) : Flags := wishes.foldl (fun f b => f.occupy b) f

/-- Wishes that come later find the flags that earlier ones left. -/
theorem occupyEach_append (f : Flags) (wishes wishes' : List Bool) :
    f.occupyEach (wishes ++ wishes') = (f.occupyEach wishes).occupyEach wishes' :=
  List.foldl_append

/-- No wish moves a seat. -/
theorem present_occupyEach (f : Flags) (wishes : List Bool) :
    (f.occupyEach wishes).present = f.present := by
  induction wishes generalizing f with
  | nil => rfl
  | cons b wishes ih => exact ih (f.occupy b)

/-- Wishes keep flags in order: the first one leaves them so, whatever they were before. -/
theorem orderly_occupyEach {f : Flags} (hf : f.Orderly) (wishes : List Bool) :
    (f.occupyEach wishes).Orderly := by
  induction wishes generalizing f with
  | nil => exact hf
  | cons b wishes ih => exact ih (f.orderly_occupy b)

end Flags

/-- A change of cells that touches flags through the guard only. -/
def Cell.Guarded (f : Cell → Cell) : Prop :=
  ∀ c, ∃ wishes, (f c).flags = c.flags.occupyEach wishes

namespace Cell

/-- Sitting down and leaving is one wish. -/
theorem guarded_occupy (b : Bool) : Guarded (Cell.occupy b) := fun _ => ⟨[b], rfl⟩

/-- A change of tallies is none. -/
theorem guarded_of_spot {f : Cell → Cell} (hf : ∀ c, (f c).spot = c.spot) : Guarded f :=
  fun c => ⟨[], flags_eq_iff.2 (hf c)⟩

/-- Such changes move no seat. -/
theorem Guarded.present {f : Cell → Cell} (hf : Guarded f) (c : Cell) :
    (f c).present = c.present := by
  obtain ⟨wishes, hflags⟩ := hf c
  exact (congrArg Flags.present hflags).trans (Flags.present_occupyEach _ wishes)

end Cell

namespace Layout

variable {g h k : Layout}

/-! ### Scripts -/

/-- What can be done to a layout. -/
inductive Operation where
  /-- Somebody sits down at a position or leaves it. -/
  | occupy (p : Position) (occupied : Bool)
  /-- The count that another layout keeps at a position is added to the tally there. -/
  | carry (source : Layout) (p : Position)
  /-- The seats around a position are told that somebody sat down or left there. -/
  | announce (p : Position) (occupied : Bool)
  /-- All tallies are forgotten. -/
  | clearTallies
  /-- All seats are counted afresh. -/
  | recount
  /-- A simulation is started on the layout, makes its ticks and leaves a layout. -/
  | simulate (rule : Rule) (ticks : Nat)

/-- The layout after an operation, unless a sum overflows. -/
def perform (g : Layout) : Operation → Except Overflow Layout
  | .occupy p occupied => .ok (g.occupy p occupied)
  | .carry source p => g.checkedCarryFrom source p
  | .announce p occupied => (g.checkedAnnounce p occupied).2.map fun _ =>
      (g.checkedAnnounce p occupied).1
  | .clearTallies => .ok g.clearTallies
  | .recount => .ok g.recount
  | .simulate rule ticks => .ok ((Simulation.start rule g).after ticks).intoLayout

/-- The layout after operations, one after another, unless a sum overflows in one of them. -/
def performAll (g : Layout) (script : List Operation) : Except Overflow Layout :=
  script.foldlM perform g

/-! ### Edits -/

/-- What a layout may become when cells of places are changed, their flags through the guard only, and
tallies of stored cells in any way. -/
inductive Edited (g : Layout) : Layout → Prop
  | refl : Edited g g
  | modify {h : Layout} (hh : Edited g h) (p : Position) (f : Cell → Cell)
    (hf : Cell.Guarded f) : Edited g (h.modify p f)
  | retally {h : Layout} (hh : Edited g h) (f : Cell → Cell) (hf : ∀ c, (f c).spot = c.spot) :
    Edited g (h.mapCells f)

namespace Edited

/-- Edits of an edited layout are edits. -/
theorem trans (hgh : Edited g h) (hhk : Edited h k) : Edited g k := by
  induction hhk with
  | refl => exact hgh
  | modify _ p f hf ih => exact ih.modify p f hf
  | retally _ f hf ih => exact ih.retally f hf

/-- Any list of places may be changed. -/
theorem foldl_modify (hh : Edited g h) {f : Position → Cell → Cell}
    (hf : ∀ p, Cell.Guarded (f p)) (ps : List Position) :
    Edited g (ps.foldl (fun h p => h.modify p (f p)) h) := by
  induction ps generalizing h with
  | nil => exact hh
  | cons p ps ih => exact ih (hh.modify p (f p) (hf p))

/-- Sitting down and leaving is an edit. -/
theorem occupy (hh : Edited g h) (p : Position) (b : Bool) : Edited g (h.occupy p b) :=
  hh.modify p _ (Cell.guarded_occupy b)

/-- A credit for a seat is one. -/
theorem creditSeat (hh : Edited g h) (p : Position) (n : Int) :
    Edited g (h.modify p (Cell.creditSeat n)) :=
  hh.modify p _ (Cell.guarded_of_spot (Cell.spot_creditSeat n))

/-- Carrying a count over is one. -/
theorem carryFrom (hh : Edited g h) (source : Layout) (p : Position) :
    Edited g (h.carryFrom source p) :=
  hh.modify p _ (Cell.guarded_of_spot fun _ => rfl)

/-- Forgetting all tallies is one. -/
theorem clearTallies (hh : Edited g h) : Edited g h.clearTallies :=
  hh.retally Cell.clear fun _ => rfl

/-- Counting afresh is forgetting followed by credits. -/
theorem recount (hh : Edited g h) : Edited g h.recount :=
  hh.clearTallies.foldl_modify (fun _ => Cell.guarded_of_spot (Cell.spot_creditSeat _)) _

/-- Anybody may be seated anywhere. -/
theorem seated (hh : Edited g h) (X : Finset Position) : Edited g (h.seated X) :=
  hh.foldl_modify (fun _ => Cell.guarded_occupy _) _

/-- However far an announcement gets, only tallies have changed. -/
theorem checkedAnnounceAlong (hh : Edited g h) (p : Position) (b : Bool) (ds : List Direction) :
    Edited g (h.checkedAnnounceAlong p b ds).1 := by
  induction ds generalizing h with
  | nil => exact hh
  | cons d ds ih =>
    rw [Layout.checkedAnnounceAlong]
    split
    · exact hh
    · exact ih hh
    · next q _ =>
      split
      · exact hh
      · exact ih (hh.creditSeat q (change b))

end Edited

end Layout

/-! ### Simulations edit -/

namespace Rule

variable {r : Rule} {g h : Layout}

/-- Generations differ from their layout by who is seated. -/
theorem edited_generation (r : Rule) (g : Layout) (k : Nat) : g.Edited (r.generation g k) := by
  rw [r.generation_eq_seated]
  exact Layout.Edited.refl.seated _

/-- The latest generation is stored as an edit. -/
theorem edited_kept (hh : g.Edited h) : g.Edited (r.kept h) := by
  unfold kept
  split
  · exact hh.recount
  · exact hh

/-- So is the one before. -/
theorem edited_spare (hh : g.Edited h) : g.Edited (r.spare h) := by
  unfold spare
  split
  · exact hh.clearTallies
  · exact hh

end Rule

namespace Simulation

/-- After any number of ticks the latest generation is an edit of the layout at the start. -/
theorem edited_current (r : Rule) (g : Layout) (k : Nat) :
    g.Edited ((start r g).after k).current := by
  rw [current_after_start]
  exact Rule.edited_kept (r.edited_generation g k)

/-- So is the generation before. -/
theorem edited_previous (r : Rule) (g : Layout) (k : Nat) :
    g.Edited ((start r g).after k).previous := by
  rw [previous_after_start]
  exact Rule.edited_spare (r.edited_generation g (k - 1))

/-- Whatever is in a buffer is an edit. -/
theorem edited_buffer {r : Rule} {g buffer : Layout} {k : Nat}
    (hbuffer : buffer ∈ ((start r g).after k).buffers) : g.Edited buffer := by
  rcases (mem_buffers_iff _ _).1 hbuffer with rfl | rfl
  · exact edited_current r g k
  · exact edited_previous r g k

end Simulation

namespace Layout

variable {g h k : Layout}

/-- Every operation is an edit. -/
theorem edited_perform {operation : Operation} (hh : g.perform operation = .ok h) :
    g.Edited h := by
  cases operation with
  | occupy p b =>
    cases hh
    exact Edited.refl.occupy p b
  | carry source p =>
    rw [perform, checkedCarryFrom] at hh
    split at hh <;> cases hh
    exact Edited.refl.carryFrom source p
  | announce p b =>
    rw [perform] at hh
    cases hend : (g.checkedAnnounce p b).2 with
    | error e =>
      rw [hend] at hh
      cases hh
    | ok =>
      rw [hend] at hh
      cases hh
      exact Edited.refl.checkedAnnounceAlong p b Direction.all
  | clearTallies =>
    cases hh
    exact Edited.refl.clearTallies
  | recount =>
    cases hh
    exact Edited.refl.recount
  | simulate r ticks =>
    cases hh
    rw [Simulation.intoLayout_eq_current]
    exact Simulation.edited_current r g ticks

/-- So is a script. -/
theorem edited_performAll {script : List Operation} (hh : g.performAll script = .ok h) :
    g.Edited h := by
  induction script generalizing g with
  | nil =>
    cases hh
    exact .refl
  | cons operation script ih =>
    rw [performAll, List.foldlM_cons] at hh
    cases hnext : g.perform operation with
    | error e =>
      rw [hnext] at hh
      cases hh
    | ok next =>
      rw [hnext] at hh
      exact (edited_perform hnext).trans (ih hh)

/-! ### What edits keep -/

/-- Changes that keep a feature of cells keep it in every stored cell. -/
theorem map_cells_modify {β : Type} {feature : Cell → β} {f : Cell → Cell}
    (hf : ∀ c, feature (f c) = feature c) (g : Layout) (p : Position) :
    (g.modify p f).cells.map feature = g.cells.map feature := by
  by_cases hp : p ∈ g
  · apply Array.ext_getElem?
    intro i
    simp only [modify, if_pos hp, Array.getElem?_map, Array.getElem?_modify]
    split
    · rw [Option.map_map]
      exact congrArg (fun F => Option.map F g.cells[i]?) (funext hf)
    · rfl
  · rw [modify, if_neg hp]

/-- So do changes of many places. -/
theorem map_cells_foldl_modify {β : Type} {feature : Cell → β} {f : Position → Cell → Cell}
    (hf : ∀ p c, feature (f p c) = feature c) (ps : List Position) (g : Layout) :
    (ps.foldl (fun h p => h.modify p (f p)) g).cells.map feature = g.cells.map feature := by
  induction ps generalizing g with
  | nil => rfl
  | cons p ps ih => rw [List.foldl_cons, ih, map_cells_modify (hf p)]

/-- And so does a change of all stored cells. -/
theorem map_cells_mapCells {β : Type} {feature : Cell → β} {f : Cell → Cell}
    (hf : ∀ c, feature (f c) = feature c) (g : Layout) :
    (g.mapCells f).cells.map feature = g.cells.map feature := by
  simp only [mapCells, Array.map_map]
  exact congrArg (fun F => g.cells.map F) (funext hf)

/-- In layouts of one size, a feature of spots that all stored cells share is shared at every
position. -/
theorem feature_spotAt_of_cells {β : Type} {f : Spot → β} (hrows : g.rows = h.rows)
    (hcols : g.cols = h.cols)
    (hcells : (g.cells.map fun c => f c.spot) = h.cells.map fun c => f c.spot)
    (p : Position) : f (g.spotAt p) = f (h.spotAt p) := by
  have hmem : p ∈ g ↔ p ∈ h := mem_congr hrows hcols
  have hstored : ∀ k : Layout, p ∈ k →
      (k.cells.map fun c => f c.spot)[k.index p]? = some (f (k.spotAt p)) := by
    intro k hp
    rw [Array.getElem?_map, ← cell?_of_mem hp, cell?_eq_views hp]
    rfl
  by_cases hp : p ∈ g
  · have hindex : g.index p = h.index p := by rw [index, index, hcols]
    apply Option.some.inj
    rw [← hstored g hp, ← hstored h (hmem.1 hp), hcells, hindex]
  · rw [spotAt_of_not_mem hp, spotAt_of_not_mem (mt hmem.2 hp)]

/-- Two layouts have the same frame when they have the same size and as many stored cells, with
seats among the same ones, those of no place included. -/
structure SameFrame (g h : Layout) : Prop where
  /-- The same number of rows. -/
  rows : g.rows = h.rows
  /-- The same number of places in each row. -/
  cols : g.cols = h.cols
  /-- The same number of stored cells. -/
  size : g.cells.size = h.cells.size
  /-- A seat among the stored cells where the other has one. -/
  present : (g.cells.map fun c => c.present) = h.cells.map fun c => c.present

/-- Nothing has happened to the flags of stored cells from the first layout to the second one except
that people wished to sit down or to leave, and each wish went through the guard. At a cell that
belongs to no place nobody wished anything. -/
def GuardedSince (g h : Layout) : Prop :=
  ∀ (i : Nat) (c : Cell), h.cells[i]? = some c → ∃ (before : Cell) (wishes : List Bool),
    g.cells[i]? = some before ∧ c.flags = before.flags.occupyEach wishes ∧
      (g.rows * g.cols ≤ i → wishes = [])

/-- Nobody sits on the floor, nor on a stored cell that belongs to no place. -/
def NobodyAstray (g : Layout) : Prop :=
  ∀ (i : Nat) (c : Cell), g.cells[i]? = some c →
    (c.present = false → c.occupied = false) ∧ (g.rows * g.cols ≤ i → c.occupied = false)

/-- Edits keep the frame. -/
theorem Edited.sameFrame (hh : Edited g h) : SameFrame h g := by
  induction hh with
  | refl => exact ⟨rfl, rfl, rfl, rfl⟩
  | modify _ p f hf ih =>
    refine ⟨?_, ?_, ?_, ?_⟩
    · rw [rows_modify, ih.rows]
    · rw [cols_modify, ih.cols]
    · rw [size_modify, ih.size]
    · rw [map_cells_modify hf.present, ih.present]
  | retally _ f hf ih =>
    refine ⟨ih.rows, ih.cols, ?_, ?_⟩
    · rw [size_mapCells, ih.size]
    · rw [map_cells_mapCells (fun c => congrArg Spot.isSeat (hf c)), ih.present]

/-- A frame is more than a floor: it counts the cells of no place too. -/
theorem SameFrame.sameFloor (hgh : SameFrame g h) : SameFloor g h :=
  ⟨hgh.rows, hgh.cols, feature_spotAt_of_cells hgh.rows hgh.cols hgh.present⟩

/-- A guarded change of a place adds its wishes to those of the place. -/
theorem GuardedSince.modify (hgh : GuardedSince g h) (hframe : SameFrame h g) (p : Position)
    {f : Cell → Cell} (hf : Cell.Guarded f) : GuardedSince g (h.modify p f) := by
  intro i c hc
  by_cases hp : p ∈ h
  · rw [Layout.modify, if_pos hp, Array.getElem?_modify] at hc
    split at hc
    · next hi =>
      obtain ⟨c', hc', rfl⟩ := Option.map_eq_some_iff.1 hc
      obtain ⟨before, wishes, hbefore, hflags, -⟩ := hgh i c' hc'
      obtain ⟨more, hmore⟩ := hf c'
      refine ⟨before, wishes ++ more, hbefore, ?_, fun hsurplus => ?_⟩
      · rw [hmore, hflags, Flags.occupyEach_append]
      · -- the place of a position is not surplus
        have hlt := index_lt_mul hp
        rw [hi, hframe.rows, hframe.cols] at hlt
        exact absurd hsurplus (Nat.not_le.2 hlt)
    · exact hgh i c hc
  · rw [Layout.modify, if_neg hp] at hc
    exact hgh i c hc

/-- Edits go through the guard. -/
theorem Edited.guardedSince (hh : Edited g h) : GuardedSince g h := by
  induction hh with
  | refl => exact fun i c hc => ⟨c, [], hc, rfl, fun _ => rfl⟩
  | modify hh p f hf ih => exact ih.modify hh.sameFrame p hf
  | @retally h _ f hf ih =>
    intro i c hc
    rw [mapCells, Array.getElem?_map] at hc
    obtain ⟨c', hc', rfl⟩ := Option.map_eq_some_iff.1 hc
    obtain ⟨before, wishes, hbefore, hflags, hsurplus⟩ := ih i c' hc'
    exact ⟨before, wishes, hbefore, (Cell.flags_eq_iff.2 (hf c')).trans hflags, hsurplus⟩

/-- Where nobody sat at first and everybody went through the guard since, nobody is astray: the guard
keeps people off the floor, and to a cell of no place nobody ever went. -/
theorem GuardedSince.nobodyAstray (hgh : GuardedSince g h) (hframe : SameFrame h g)
    (hfree : ∀ c ∈ g.cells, c.occupied = false) : h.NobodyAstray := by
  intro i c hc
  obtain ⟨before, wishes, hbefore, hflags, hsurplus⟩ := hgh i c hc
  have hbefore : before.flags.occupied = false := hfree before (Array.mem_of_getElem? hbefore)
  have horderly : c.flags.Orderly := by
    rw [hflags]
    apply Flags.orderly_occupyEach
    intro hoccupied
    rw [hbefore] at hoccupied
    cases hoccupied
  refine ⟨horderly.occupied_eq_false, fun hi => ?_⟩
  rw [hframe.rows, hframe.cols] at hi
  rw [hsurplus hi] at hflags
  exact (congrArg Flags.occupied hflags).trans hbefore

/-- Edits of what was built from rows could have been built. -/
theorem Edited.built (hh : Edited g h) (hg : g.Built) : h.Built := by
  induction hh with
  | refl => exact hg
  | modify _ p f _ ih => exact ih.modify p f
  | retally _ f hf ih => exact ih.retally f hf

/-- In a layout built from rows, refused ones included, nobody sits anywhere. -/
theorem occupied_eq_false_of_build (rows : List (List Char)) {c : Cell}
    (hc : c ∈ (rows.foldl Builder.push {}).build.cells) : c.occupied = false :=
  ((Builder.unused_empty.foldl_push rows).build c hc).1

/-- Seating people leaves every stored tally alone. -/
theorem tallies_seated (g : Layout) (X : Finset Position) :
    (g.seated X).cells.map Cell.tally = g.cells.map Cell.tally :=
  map_cells_foldl_modify (fun _ c => Cell.tally_occupy _ c) _ g

end Layout

namespace Simulation

/-- Without tracking, neither buffer of a simulation ever has other tallies than the layout on which
it was started. -/
theorem tallies_of_not_tracked {r : Rule} (htracked : r.tracked = false) {g buffer : Layout} {k : Nat}
    (hbuffer : buffer ∈ ((start r g).after k).buffers) :
    buffer.cells.map Cell.tally = g.cells.map Cell.tally := by
  have hkept : ∀ h, r.kept h = h := fun h => by rw [Rule.kept, htracked]; rfl
  have hspare : ∀ h, r.spare h = h := fun h => by rw [Rule.spare, htracked]; rfl
  rcases (mem_buffers_iff _ _).1 hbuffer with rfl | rfl
  · rw [current_after_start, hkept, r.generation_eq_seated]
    exact g.tallies_seated _
  · rw [previous_after_start, hspare, r.generation_eq_seated]
    exact g.tallies_seated _

end Simulation

namespace Layout

/-- **No script moves a wall or a seat.** Take rows, refused ones included, and any script on the
layout that they build in which no sum overflows. The layout keeps its size, its number of stored
cells and the seats among them. All that has happened to flags has gone through the guard, and so
nobody sits on the floor or on a cell that belongs to no place. The same holds of what is in either
buffer at every moment of a simulation that is then started under any rule, and without tracking its
stored tallies are those that the simulation was started with. -/
theorem performAll_frame (rows : List (List Char)) (script : List Operation) {g : Layout}
    (hg : (rows.foldl Builder.push {}).build.performAll script = .ok g) :
    let built := (rows.foldl Builder.push {}).build
    (g.SameFrame built ∧ built.GuardedSince g ∧ g.NobodyAstray) ∧
      ∀ (r : Rule) (k : Nat), ∀ buffer ∈ ((Simulation.start r g).after k).buffers,
        (buffer.SameFrame built ∧ built.GuardedSince buffer ∧ buffer.NobodyAstray) ∧
          (r.tracked = false → buffer.cells.map Cell.tally = g.cells.map Cell.tally) := by
  intro built
  have hkeeps : ∀ h, g.Edited h → h.SameFrame built ∧ built.GuardedSince h ∧ h.NobodyAstray := by
    intro h hh
    have hedited := (edited_performAll hg).trans hh
    exact ⟨hedited.sameFrame, hedited.guardedSince,
      hedited.guardedSince.nobodyAstray hedited.sameFrame fun _ => occupied_eq_false_of_build rows⟩
  refine ⟨hkeeps g .refl, fun r k buffer hbuffer => ⟨?_, fun htracked => ?_⟩⟩
  · exact hkeeps buffer (Simulation.edited_buffer hbuffer)
  · exact Simulation.tallies_of_not_tracked htracked hbuffer

/-- Rows of which the third is refused and leaves a seat of no place behind. -/
def patchyRows : List (List Char) := [['L', '.'], ['L', 'L'], ['L', 'x']]

/-- People sit down, also on the floor and outside, tallies are carried from a crowded row and
announced below zero, and two simulations run. -/
def busyScript : List Operation :=
  [.occupy ⟨0, 0⟩ true, .occupy ⟨0, 1⟩ true, .occupy ⟨2, 0⟩ true,
    .carry (ofWidth 2 |>.pushRow ['L', 'L'] |>.modify ⟨0, 1⟩ (Cell.credit 7)) ⟨0, 1⟩,
    .announce ⟨1, 1⟩ false, .simulate Mode.visible.rule 2, .clearTallies, .announce ⟨0, 0⟩ true,
    .simulate Mode.adjacent.rule 3, .recount]

/-- The script ends in a layout with a fifth cell of no place, on which nobody sits. Three ticks of a
simulation later the tallies in its buffers are still those of the script. -/
theorem performAll_frame_patchyRows :
    ∃ g, (patchyRows.foldl Builder.push {}).build.performAll busyScript = .ok g ∧
      g.cells.size = 5 ∧ g.rows * g.cols = 4 ∧
      g.SameFrame (patchyRows.foldl Builder.push {}).build ∧
      (patchyRows.foldl Builder.push {}).build.GuardedSince g ∧ g.NobodyAstray ∧
      Mode.visible.rule.tracked = false ∧
      ∀ buffer ∈ ((Simulation.start Mode.visible.rule g).after 3).buffers,
        buffer.cells.map Cell.tally = g.cells.map Cell.tally := by
  have hends : ((patchyRows.foldl Builder.push {}).build.performAll busyScript).isOk = true := by
    decide +kernel
  cases hg : (patchyRows.foldl Builder.push {}).build.performAll busyScript with
  | error e =>
    rw [hg] at hends
    cases hends
  | ok g =>
    obtain ⟨⟨hframe, hguarded, hastray⟩, hsimulation⟩ := performAll_frame patchyRows busyScript hg
    refine ⟨g, rfl, ?_, ?_, hframe, hguarded, hastray, rfl, fun buffer hbuffer => ?_⟩
    · rw [hframe.size]
      rfl
    · rw [hframe.rows, hframe.cols]
      rfl
    · exact (hsimulation Mode.visible.rule 3 buffer hbuffer).2 rfl

end Layout

end WaitingRoom
