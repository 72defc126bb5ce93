import WaitingRoom.Layout.Builder
import WaitingRoom.Proofs.Seating

/-!
# Plans

What is known of a layout that was read from a plan.

* **`Layout.Unused`**: nobody sits anywhere and nothing is tallied. Every row offered keeps it so,
  accepted or not (`Layout.Unused.pushRow`), and so every plan that can be read does
  (`Layout.unused_of_ofRows`).
* **`Layout.Built`**: what may become of rows, refused ones included, by changes to the cells of
  places. Nobody ever sits on a cell that belongs to no place (`Layout.Built.surplus_free`), so the
  number of taken seats is that of the people at places (`Layout.Built.occupied_eq_card`).
-/

namespace WaitingRoom

/-- The cells of a row are not in use. -/
theorem unused_of_mem_readableCells {row : List Char} {c : Cell} (hc : c ∈ readableCells row) :
    c.spot.isTaken = false ∧ c.tally = 0 := by
  induction row with
  | nil => cases hc
  | cons mark rest ih =>
    rw [readableCells] at hc
    split at hc
    · next spot hspot =>
      rcases List.mem_cons.1 hc with rfl | hrest
      · refine ⟨?_, rfl⟩
        -- no mark of a plan stands for a taken seat
        unfold Spot.ofMark? at hspot
        split at hspot
        · cases hspot; rfl
        · split at hspot <;> cases hspot
          rfl
      · exact ih hrest
    · cases hc

namespace Layout

variable {g : Layout}

/-- Nobody sits anywhere, and nothing is tallied. -/
def Unused (g : Layout) : Prop := ∀ c ∈ g.cells, c.spot.isTaken = false ∧ c.tally = 0

/-- A layout without rows is not in use. -/
theorem unused_ofWidth (cols : Nat) : (ofWidth cols).Unused := by
  intro c hc
  cases hc
  contradiction

/-- A row adds cells that are not in use, if any. -/
theorem Unused.pushRow (hg : g.Unused) (row : List Char) : (g.pushRow row).Unused := by
  have happend : ∀ c ∈ g.cells ++ (readableCells row).toArray,
      c.spot.isTaken = false ∧ c.tally = 0 := by
    intro c hc
    rcases Array.mem_append.1 hc with hold | hnew
    · exact hg c hold
    · exact unused_of_mem_readableCells (List.mem_toArray.1 hnew)
  unfold Layout.pushRow
  split
  · exact happend
  · exact happend
  · exact hg

/-- Where nobody sits no place is taken. -/
theorem Unused.takenPlaces_eq (hg : g.Unused) : g.takenPlaces = ∅ := by
  rw [Finset.eq_empty_iff_forall_notMem]
  intro p hp
  rw [mem_takenPlaces] at hp
  have hmem := mem_of_isSeat (isSeat_of_isTaken hp)
  obtain ⟨c, hc⟩ := exists_cell?_eq hmem
  have hfree := (hg c (Array.mem_of_getElem? ((cell?_of_mem hmem).symm.trans hc))).1
  rw [isTaken, spotAt_of_cell? hc, hfree] at hp
  contradiction

end Layout

namespace Builder

variable {b b' : Builder}

/-- The builder has taken no cell that is in use. -/
def Unused (b : Builder) : Prop := ∀ g, b.soFar = some g → g.Unused

/-- The layout that is made for a first row is not in use. -/
theorem Unused.forRow (hb : b.Unused) (row : List Char) : (b.forRow row).Unused := by
  unfold Builder.forRow
  cases hg : b.soFar with
  | none => exact Layout.unused_ofWidth row.length
  | some g => exact hb g hg

/-- A row offered to a builder leaves it unused, taken or not. -/
theorem Unused.push (hb : b.Unused) (row : List Char) : (b.push row).Unused := by
  rintro g ⟨⟩
  exact (hb.forRow row).pushRow row

/-- An accepted row is pushed. -/
theorem eq_push_of_extend {row : List Char} (h : b.extend row = .ok b') : b' = b.push row := by
  unfold extend at h
  split at h <;> cases h
  rfl

/-- Rows taken one after another leave the cells unused. -/
theorem Unused.foldlM_extend {rows : List (List Char)} (hb : b.Unused)
    (h : rows.foldlM extend b = .ok b') : b'.Unused := by
  induction rows generalizing b with
  | nil =>
    cases h
    exact hb
  | cons row rows ih =>
    rw [List.foldlM_cons] at h
    cases hrow : b.extend row with
    | error e =>
      rw [hrow] at h
      cases h
    | ok next =>
      rw [hrow] at h
      refine ih ?_ h
      rw [eq_push_of_extend hrow]
      exact hb.push row

/-- Rows offered one after another leave the cells unused, whichever are accepted. -/
theorem Unused.foldl_push (hb : b.Unused) (rows : List (List Char)) :
    (rows.foldl Builder.push b).Unused := by
  induction rows generalizing b with
  | nil => exact hb
  | cons row rows ih => exact ih (hb.push row)

/-- A new builder has nothing in use. -/
theorem unused_empty : ({} : Builder).Unused := by
  rintro g ⟨⟩

/-- What is built is not in use. -/
theorem Unused.build (hb : b.Unused) : b.build.Unused := by
  unfold Builder.build
  cases hg : b.soFar with
  | none => exact Layout.unused_ofWidth 0
  | some g => exact hb g hg

end Builder

namespace Layout

/-- A layout read from rows is not in use. -/
theorem unused_of_ofRows {g : Layout} {rows : List (List Char)} (h : ofRows rows = .ok g) :
    g.Unused := by
  unfold ofRows at h
  cases hrows : rows.foldlM Builder.extend {} with
  | error e =>
    rw [hrows] at h
    cases h
  | ok b =>
    rw [hrows] at h
    cases h
    exact (Builder.unused_empty.foldlM_extend hrows).build

/-! ### Layouts in use -/

/-- What may become of rows, refused ones included: the layout that they build, with the cells of
its places changed in any way, and the tallies of all stored cells. -/
inductive Built : Layout → Prop
  | build (rows : List (List Char)) : Built (rows.foldl Builder.push {}).build
  | modify {g : Layout} (hg : Built g) (p : Position) (f : Cell → Cell) : Built (g.modify p f)
  | retally {g : Layout} (hg : Built g) (f : Cell → Cell) (hf : ∀ c, (f c).spot = c.spot) :
    Built (g.mapCells f)

/-- Any list of places may be changed. -/
theorem Built.foldl_modify {g : Layout} (hg : g.Built) (f : Position → Cell → Cell)
    (ps : List Position) : (ps.foldl (fun h p => h.modify p (f p)) g).Built := by
  induction ps generalizing g with
  | nil => exact hg
  | cons p ps ih => exact ih (hg.modify p (f p))

/-- Anybody may be seated anywhere. -/
theorem Built.seated {g : Layout} (hg : g.Built) (X : Finset Position) : (g.seated X).Built :=
  hg.foldl_modify _ _

/-- Counting afresh is such a change. -/
theorem Built.recount {g : Layout} (hg : g.Built) : g.recount.Built :=
  (hg.retally Cell.clear fun _ => rfl).foldl_modify _ _

/-- Nobody sits on a cell that belongs to no place. -/
theorem Built.surplus_free {g : Layout} (hg : g.Built) :
    ∀ spot ∈ g.surplus.map Cell.spot, spot.isTaken = false := by
  induction hg with
  | build rows =>
    intro spot hspot
    obtain ⟨c, hc, rfl⟩ := List.mem_map.1 hspot
    have hunused := (Builder.unused_empty.foldl_push rows).build
    exact (hunused c (Array.mem_toList_iff.1 (List.mem_of_mem_drop hc))).1
  | modify _ p f ih =>
    rw [surplus_modify]
    exact ih
  | retally _ f hf ih =>
    have hspot : Cell.spot ∘ f = Cell.spot := funext hf
    rw [surplus_mapCells, List.map_map, hspot]
    exact ih

/-- So the people of such a layout are those at its places. -/
theorem Built.occupied_eq_card {g : Layout} (hg : g.Built) : g.occupied = g.takenPlaces.card := by
  have hfree : g.surplus.countP (fun c => c.spot.isTaken) = 0 := by
    rw [List.countP_eq_zero]
    intro c hc
    rw [hg.surplus_free c.spot (List.mem_map_of_mem hc)]
    exact Bool.false_ne_true
  rw [occupied_eq, hfree, Nat.add_zero]

end Layout

end WaitingRoom
