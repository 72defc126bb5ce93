import WaitingRoom.Proofs.Likeness
import WaitingRoom.Proofs.Scripts
import WaitingRoom.Proofs.Words

/-!
# One by one, or all afresh

Tallies can be kept up to date in two ways: the seats around are told each time somebody sits down
or leaves, or everybody is counted afresh. Both come to the same.

* **`Layout.toggle`**, **`Layout.flip`**: somebody sits down on a seat or leaves it, and in a flip the
  seats around are told. **`Layout.flip?`** is a flip in machine words.
* **`Layout.adjacentOccupied_toggle`**: what a toggle does to a count. As a place around is around in
  both directions, that is what the place is told.
* **`Layout.flip_recount`**: so a flip after a recount is a recount after a toggle. For whole lists of
  flips that is `Layout.foldl_flip_recount`, and in machine words `Layout.foldlM_flip?_recount`.
* **`Layout.recount_eq_of_spots`**: what a recount gives depends on the seats and the people alone.
-/

namespace WaitingRoom.Layout

variable {g h : Layout} {p q : Position}

/-! ### Toggles -/

/-- The layout after somebody sat down at a place, or whoever was there left it. Nobody is told. -/
def toggle (g : Layout) (p : Position) : Layout := g.occupy p (!g.isTaken p)

/-- The same with the seats around told. -/
def flip (g : Layout) (p : Position) : Layout := (g.toggle p).announce p (!g.isTaken p)

/-- A flip in machine words. -/
def flip? (g : Layout) (p : Position) : Except Overflow Layout :=
  g.performAll [.occupy p (!g.isTaken p), .announce p (!g.isTaken p)]

/-- A flip leaves the outline alone. -/
@[simp] theorem outline_toggle (g : Layout) (p : Position) : (g.toggle p).outline = g.outline :=
  outline_modify g p _

/-- A flip moves no seat. -/
theorem isSeat_toggle (g : Layout) (p q : Position) : (g.toggle p).isSeat q = g.isSeat q := by
  rw [toggle, isSeat, spotAt_occupy, isSeat]
  split <;> simp

/-- A flip leaves the floor as it is. -/
theorem sameFloor_toggle (g : Layout) (p : Position) : SameFloor (g.toggle p) g :=
  ⟨rows_modify g p _, cols_modify g p _, g.isSeat_toggle p⟩

/-- The seat of a toggle is taken if it was not, and all others are as they were. -/
theorem isTaken_toggle (hp : g.isSeat p = true) (q : Position) :
    (g.toggle p).isTaken q = if q = p then !g.isTaken p else g.isTaken q := by
  rw [toggle, isTaken, spotAt_occupy]
  split
  · next hq =>
    subst hq
    rw [Spot.isTaken_occupy]
    exact congrArg (· && _) hp
  · rfl

/-- A toggle changes the counts around by what is announced. -/
theorem adjacentOccupied_toggle (hp : g.isSeat p = true) (hq : g.isSeat q = true) :
    ((g.toggle p).adjacentOccupied q : Int) =
      g.adjacentOccupied q + if q ∈ g.adjacent p then change (!g.isTaken p) else 0 := by
  have hnear : Mode.adjacent.near (g.toggle p) q = Mode.adjacent.near g q :=
    congrArg List.toFinset (adjacent_congr (g.sameFloor_toggle p) q)
  have hmoved : ∀ s, (if (g.toggle p).isTaken s = true then 1 else 0 : Int) =
      (if g.isTaken s = true then 1 else 0) + if s = p then change (!g.isTaken p) else 0 := by
    intro s
    rw [isTaken_toggle hp]
    by_cases hs : s = p
    · subst hs
      cases g.isTaken s <;> simp [change]
    · simp [hs]
  have hcomm : q ∈ g.adjacent p ↔ p ∈ Mode.adjacent.near g q := by
    rw [Mode.mem_near]
    exact Mode.mem_neighbors_comm (m := .adjacent) hp hq
  rw [adjacentOccupied_eq_sum, adjacentOccupied_eq_sum, hnear,
    Finset.sum_congr rfl fun s _ => hmoved s, Finset.sum_add_distrib, Finset.sum_ite_eq']
  simp only [hcomm]

/-! ### Flips -/

/-- A flip after a recount is a recount after a toggle: the counts around change by what is told, and
so do the tallies that held them. -/
theorem flip_recount (hp : g.isSeat p = true) : g.recount.flip p = (g.toggle p).recount := by
  have htoggle : g.recount.toggle p = g.recount.occupy p (!g.isTaken p) := by
    rw [toggle, isTaken_recount]
  have hfloor : SameFloor (g.recount.toggle p) g :=
    (g.recount.sameFloor_toggle p).trans g.sameFloor_recount
  rw [flip, isTaken_recount]
  refine eq_of_views ?_ (fun q => ?_) (fun q => ?_)
  · have houtline : ((g.recount.toggle p).announce p (!g.isTaken p)).outline =
        (g.recount.toggle p).outline := outline_foldl_modify _ _ _
    rw [houtline, outline_toggle, outline_recount_congr (g.outline_toggle p)]
  · rw [spotAt_announce, htoggle, spotAt_occupy, spotAt_recount, spotAt_recount, toggle,
      spotAt_occupy]
  · rw [tallyAt_announce, adjacent_congr hfloor, hfloor.isSeat, htoggle, tallyAt_occupy,
      tallyAt_recount, tallyAt_recount, isSeat_toggle]
    by_cases hq : g.isSeat q = true
    · simp only [hq, and_true, if_true]
      exact (adjacentOccupied_toggle hp hq).symm
    · simp [hq]

/-- Flips move no seat. -/
theorem isSeat_foldl_toggle (ps : List Position) (g : Layout) (q : Position) :
    (ps.foldl toggle g).isSeat q = g.isSeat q := by
  induction ps generalizing g with
  | nil => rfl
  | cons p ps ih => rw [List.foldl_cons, ih, isSeat_toggle]

/-- Flips leave the outline alone. -/
theorem outline_foldl_toggle (ps : List Position) (g : Layout) :
    (ps.foldl toggle g).outline = g.outline := by
  induction ps generalizing g with
  | nil => rfl
  | cons p ps ih => rw [List.foldl_cons, ih, outline_toggle]

/-- Flips one after another keep the tallies that a recount at the end would give. -/
theorem foldl_flip_recount {ps : List Position} (hps : ∀ p ∈ ps, g.isSeat p = true) :
    ps.foldl flip g.recount = (ps.foldl toggle g).recount := by
  induction ps generalizing g with
  | nil => rfl
  | cons p ps ih =>
    rw [List.forall_mem_cons] at hps
    obtain ⟨hp, hps⟩ := hps
    rw [List.foldl_cons, List.foldl_cons, flip_recount hp]
    apply ih
    intro q hq
    rw [isSeat_toggle]
    exact hps q hq

/-! ### Flips in machine words -/

/-- A flip after a recount never runs out of numbers. -/
theorem flip?_recount (hg : g.Fits) (hp : g.isSeat p = true) :
    g.recount.flip? p = .ok (g.toggle p).recount := by
  have hfloor : SameFloor (g.recount.toggle p) g :=
    (g.recount.sameFloor_toggle p).trans g.sameFloor_recount
  have hfits : (g.recount.toggle p).Fits := by rwa [Fits, hfloor.rows, hfloor.cols]
  have hmem : p ∈ g.recount.toggle p := hfloor.mem_iff.2 (mem_of_isSeat hp)
  have htally : ∀ q, ((g.recount.toggle p).tallyAt q).natAbs + 8 < 0x8000000000000000 := by
    intro q
    have hcount := g.adjacentOccupied_le q
    rw [toggle, tallyAt_occupy, tallyAt_recount]
    split <;> omega
  have hannounce := checkedAnnounce_eq hfits hmem (!g.recount.isTaken p) htally
  rw [← flip_recount hp, flip]
  show (g.recount.toggle p).perform (.announce p (!g.recount.isTaken p)) >>= pure = _
  rw [perform, hannounce]
  rfl

/-- On counted tallies no list of flips fails, and it leaves counted tallies. -/
theorem foldlM_flip?_recount (hg : g.Fits) {ps : List Position}
    (hps : ∀ p ∈ ps, g.isSeat p = true) :
    ps.foldlM flip? g.recount = .ok (ps.foldl toggle g).recount := by
  induction ps generalizing g with
  | nil => rfl
  | cons p ps ih =>
    rw [List.forall_mem_cons] at hps
    obtain ⟨hp, hps⟩ := hps
    have hfloor := g.sameFloor_toggle p
    rw [List.foldlM_cons, List.foldl_cons, flip?_recount hg hp]
    apply ih
    · rwa [Fits, hfloor.rows, hfloor.cols]
    · intro q hq
      rw [isSeat_toggle]
      exact hps q hq

/-! ### What a recount depends on -/

/-- Layouts of one size with the same stored spots look alike. -/
theorem alike_of_spots (hrows : g.rows = h.rows) (hcols : g.cols = h.cols)
    (hspots : g.cells.map Cell.spot = h.cells.map Cell.spot) : g.Alike h :=
  ⟨hrows, hcols, feature_spotAt_of_cells (f := id) hrows hcols hspots⟩

/-- What a recount gives depends on the seats and the people alone. -/
theorem recount_eq_of_spots (hrows : g.rows = h.rows) (hcols : g.cols = h.cols)
    (hspots : g.cells.map Cell.spot = h.cells.map Cell.spot) : g.recount = h.recount := by
  apply recount_congr (alike_of_spots hrows hcols hspots)
  -- a cleared cell is what its spot tells
  have hclear : ∀ k : Layout, k.surplus.map Cell.clear =
      ((k.cells.map Cell.spot).toList.drop (k.rows * k.cols)).map fun spot => { spot } := by
    intro k
    rw [surplus, Array.toList_map, ← List.map_drop, List.map_map]
    rfl
  rw [hclear, hclear, hspots, hrows, hcols]

/-- A recount changes neither seats nor people. -/
theorem spots_recount (g : Layout) : g.recount.cells.map Cell.spot = g.cells.map Cell.spot := by
  have hcredit : g.recount.cells.map Cell.spot = g.clearTallies.cells.map Cell.spot :=
    map_cells_foldl_modify (fun _ c => Cell.spot_creditSeat _ c) _ _
  exact hcredit.trans (map_cells_mapCells Cell.spot_clear g)

/-- Counting once more gives the same. -/
theorem recount_recount (g : Layout) : g.recount.recount = g.recount :=
  recount_eq_of_spots g.sameFloor_recount.rows g.sameFloor_recount.cols g.spots_recount

/-- On one floor the same people give the same recount, whoever moved before. -/
theorem recount_foldl_toggle_congr {ps qs : List Position}
    (htaken : (ps.foldl toggle g).takenPlaces = (qs.foldl toggle g).takenPlaces) :
    (ps.foldl toggle g).recount = (qs.foldl toggle g).recount := by
  have houtline := (outline_foldl_toggle ps g).trans (outline_foldl_toggle qs g).symm
  simp only [outline, Prod.mk.injEq] at houtline
  obtain ⟨hrows, hcols, hsurplus⟩ := houtline
  have hfloor : SameFloor (ps.foldl toggle g) (qs.foldl toggle g) := by
    refine ⟨hrows, hcols, fun p => ?_⟩
    rw [isSeat_foldl_toggle, isSeat_foldl_toggle]
  apply recount_congr (alike_of_takenPlaces hfloor htaken)
  rw [hsurplus]

/-- **Told one by one is counted afresh.** Take any layout, whatever is tallied in it, and any list of
its seats to be flipped one after another. Flipping them after a recount leaves the layout, floor and
surplus included, that a recount gives after people have moved without telling; where the size is
given in machine words no flip overflows. Counting once more changes nothing, what a recount gives
depends on the seats and the people alone, and all lists of flips that end with the same people end
with the same layout. -/
theorem flips_recount_exact (g : Layout) {ps : List Position} (hps : ∀ p ∈ ps, g.isSeat p = true) :
    ps.foldl flip g.recount = (ps.foldl toggle g).recount ∧
      (g.Fits → ps.foldlM flip? g.recount = .ok (ps.foldl toggle g).recount) ∧
      g.recount.recount = g.recount ∧
      (∀ h : Layout, h.rows = g.rows → h.cols = g.cols →
        h.cells.map Cell.spot = g.cells.map Cell.spot → h.recount = g.recount) ∧
      ∀ qs : List Position, (∀ q ∈ qs, g.isSeat q = true) →
        (qs.foldl toggle g).takenPlaces = (ps.foldl toggle g).takenPlaces →
        qs.foldl flip g.recount = ps.foldl flip g.recount := by
  refine ⟨foldl_flip_recount hps, fun hg => foldlM_flip?_recount hg hps, g.recount_recount, ?_, ?_⟩
  · intro h hrows hcols hspots
    exact recount_eq_of_spots hrows hcols hspots
  · intro qs hqs htaken
    rw [foldl_flip_recount hps, foldl_flip_recount hqs]
    exact recount_foldl_toggle_congr htaken

/-- Three seats and a seat of no place, with one person, and with the same wrong tally everywhere. -/
def untidyRoom : Layout :=
  ((patchyRows.foldl Builder.push {}).build.occupy ⟨1, 0⟩ true).mapCells (Cell.credit (-5))

/-- Four flips, of which two undo each other. -/
def windingFlips : List Position := [⟨0, 0⟩, ⟨1, 1⟩, ⟨0, 0⟩, ⟨1, 0⟩]

/-- The other two in the opposite order. -/
def shortFlips : List Position := [⟨1, 0⟩, ⟨1, 1⟩]

/-- In the untidy room two ways to flip the same seats end in the same tallies. -/
theorem flips_recount_exact_untidyRoom :
    (∀ p ∈ windingFlips, untidyRoom.isSeat p = true) ∧
      (∀ q ∈ shortFlips, untidyRoom.isSeat q = true) ∧
      untidyRoom.Fits ∧ untidyRoom.tallyAt ⟨0, 0⟩ = -5 ∧
      windingFlips.foldlM flip? untidyRoom.recount =
        .ok (windingFlips.foldl toggle untidyRoom).recount ∧
      shortFlips.foldl flip untidyRoom.recount = windingFlips.foldl flip untidyRoom.recount ∧
      (shortFlips.foldl flip untidyRoom.recount).tallyAt ⟨0, 0⟩ = 1 := by
  have hps : ∀ p ∈ windingFlips, untidyRoom.isSeat p = true := by decide +kernel
  have hqs : ∀ q ∈ shortFlips, untidyRoom.isSeat q = true := by decide +kernel
  have hfits : untidyRoom.Fits := by decide
  obtain ⟨-, hwords, -, -, hsame⟩ := flips_recount_exact untidyRoom hps
  refine ⟨hps, hqs, hfits, by decide +kernel, hwords hfits, hsame _ hqs ?_, ?_⟩
  · decide +kernel
  · decide +kernel

end WaitingRoom.Layout
