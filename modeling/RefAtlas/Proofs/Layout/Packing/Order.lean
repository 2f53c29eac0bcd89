import RefAtlas.Proofs.Layout.Packing.Slots

/-! # Packing in any order

The items of a grid are chosen by their sizes only; their numbers say where the corners go in the
end. So wherever the sizes in falling order are the same, the grids are, and every size meets the
same corners. Sizes of equal area are the exception, for they stay in the order of the input.

* `MayTie`: the order leaves open which of two sizes comes first; `mayTie_single_iff`: these have
  equal areas.
* `map_size_sortedItems_eq`: the sizes in falling order do not depend on the order of the input.
* `Grid.renumber`, `bestGrid_map`: the chosen grid does not depend on the numbers of the items.
* `Grid.placed`, `zip_positions_perm`: the sizes with their corners, slot by slot.
* `pack_perm`: two orders of the same sizes.
-/

namespace RefAtlas
set_option autoImplicit false

theorem chunks_map {β γ : Type} (f : β → γ) (k : ℕ) (l : List β) :
    chunks k (l.map f) = (chunks k l).map (List.map f) := by
  fun_induction chunks k l with
  | case1 l h =>
    have hstop : k = 0 ∨ l.map f = [] := by simpa using h
    rw [chunks, dif_pos hstop]
    rfl
  | case2 l h ih =>
    have hmore : ¬(k = 0 ∨ l.map f = []) := by simpa using h
    rw [chunks, dif_neg hmore, List.map_cons, ← ih, List.map_take, List.map_drop]

theorem perm_filterMap_getElem? {β : Type} (l : List β) {numbers : List ℕ}
    (h : numbers.Perm (List.range l.length)) : l.Perm (numbers.filterMap (l[·]?)) := by
  have hall : (List.range l.length).filterMap (l[·]?) = l := by
    rw [List.range_eq_range', ← List.zipIdx_map_snd 0 l, List.filterMap_map]
    have hvalue : ∀ e ∈ l.zipIdx, ((l[·]?) ∘ Prod.snd) e = (some ∘ Prod.fst) e := fun e he =>
      List.mem_zipIdx_iff_getElem?.1 he
    rw [List.filterMap_congr hvalue, List.filterMap_eq_map, List.zipIdx_map_fst]
  exact (List.Perm.of_eq hall.symm).trans (h.symm.filterMap _)

namespace Layout
open RefAtlas.Number

variable {α : Type} [Scalar α]

/-! ## The sizes in falling order -/

/-- Every two coordinates can be compared, and comparing is transitive. -/
structure OrdersAll (α : Type) [Scalar α] : Prop where
  total : ∀ x y : α, (Scalar.totalLe x y || Scalar.totalLe y x) = true
  trans : ∀ x y z : α, Scalar.totalLe x y = true → Scalar.totalLe y z = true →
    Scalar.totalLe x z = true

/-- Either of two sizes may be put into a grid before the other: their areas are equal in the order of
all coordinates. -/
def MayTie (a b : Size α) : Prop := comesBefore a b = true ∧ comesBefore b a = true

section Sorted
variable (horder : OrdersAll α)
include horder

theorem comesBefore_total (a b : Size α) : (comesBefore a b || comesBefore b a) = true := by
  have htotal := horder.total a.area b.area
  simp only [comesBefore, Bool.or_eq_true, Bool.and_eq_true, decide_eq_true_eq, beq_iff_eq]
    at htotal ⊢
  rcases lt_trichotomy (areaRank a) (areaRank b) with hlt | heq | hgt
  · simp [hlt]
  · simp [heq, htotal.symm]
  · simp [hgt]

theorem comesBefore_trans (a b c : Size α) (hab : comesBefore a b = true)
    (hbc : comesBefore b c = true) : comesBefore a c = true := by
  simp only [comesBefore, Bool.or_eq_true, Bool.and_eq_true, decide_eq_true_eq, beq_iff_eq]
    at hab hbc ⊢
  rcases hab with hab | ⟨hab, harea⟩
  · rcases hbc with hbc | ⟨hbc, -⟩
    · exact .inl (hbc.trans hab)
    · exact .inl (hbc ▸ hab)
  · rcases hbc with hbc | ⟨hbc, harea'⟩
    · exact .inl (hab ▸ hbc)
    · exact .inr ⟨hbc.trans hab, horder.trans _ _ _ harea' harea⟩

/-- Where only equal sizes tie, every order of the input gives the same sizes in falling order. -/
theorem map_size_sortedItems_eq {sizes sizes' : List (Size α)}
    (hties : ∀ a ∈ sizes, ∀ b ∈ sizes, MayTie a b → a = b) (h : sizes.Perm sizes') :
    (sortedItems sizes).map Item.size = (sortedItems sizes').map Item.size := by
  have hperm : ∀ sizes : List (Size α), ((sortedItems sizes).map Item.size).Perm sizes := by
    intro sizes
    have hitems := (sortedItems_perm sizes).map Item.size
    have hsize : (Item.size ∘ fun s : Size α × ℕ => Item.mk s.2 s.1) = Prod.fst := rfl
    rwa [List.map_map, hsize, List.zipIdx_map_fst] at hitems
  have hsorted : ∀ sizes : List (Size α),
      ((sortedItems sizes).map Item.size).Pairwise fun a b => comesBefore a b = true :=
    fun sizes => List.pairwise_map.2 (List.pairwise_mergeSort
      (fun a b c => comesBefore_trans horder a.size b.size c.size)
      (fun a b => comesBefore_total horder a.size b.size) _)
  refine List.Perm.eq_of_pairwise (fun a b ha hb hab hba => ?_) (hsorted sizes) (hsorted sizes')
    ((hperm sizes).trans (h.trans (hperm sizes').symm))
  have hmem : b ∈ sizes := h.mem_iff.2 ((hperm sizes').mem_iff.1 hb)
  exact hties a ((hperm sizes).mem_iff.1 ha) b hmem ⟨hab, hba⟩

end Sorted

/-! ## Grids without numbers -/

section Renumber
variable {f : Item α → Item α} (hf : ∀ item, (f item).size = item.size)

def Grid.renumber (f : Item α → Item α) (g : Grid α) : Grid α :=
  { g with rows := g.rows.map (List.map f) }

include hf

theorem widen_map (widths : List α) (row : List (Item α)) :
    widen widths (row.map f) = widen widths row := by
  induction row generalizing widths with
  | nil => rfl
  | cons item row ih =>
    cases widths with
    | nil => rfl
    | cons w ws => simp [widen, hf, ih]

theorem rowHeight_map (row : List (Item α)) : rowHeight (row.map f) = rowHeight row := by
  simp only [rowHeight, List.foldl_map, hf]

theorem gridOf_map (items : List (Item α)) (r : ℕ) :
    gridOf (items.map f) r = (gridOf items r).renumber f := by
  simp only [gridOf, Grid.ofRows, Grid.renumber, List.length_map, chunks_map, List.foldl_map,
    widen_map hf, List.map_map, Function.comp_def, rowHeight_map hf]

omit hf in
theorem betterGrid_renumber (padding : α) (objective : Objective) (best other : Grid α) :
    betterGrid padding objective (best.renumber f) (other.renumber f) =
      (betterGrid padding objective best other).renumber f := by
  have hsize : ∀ g : Grid α, (g.renumber f).size padding = g.size padding := fun _ => rfl
  rw [betterGrid, betterGrid, hsize, hsize]
  split <;> rfl

theorem bestGrid_map (items : List (Item α)) (padding : α) (objective : Objective) :
    bestGrid (items.map f) padding objective = (bestGrid items padding objective).renumber f := by
  have hgrids : gridOf (items.map f) = Grid.renumber f ∘ gridOf items :=
    funext (gridOf_map hf items)
  rw [bestGrid, bestGrid, hgrids, ← List.map_map, List.length_map, List.foldl_map]
  exact List.foldl_hom (Grid.renumber f) fun best other =>
    betterGrid_renumber padding objective best other

end Renumber

/-- Grids with the same tracks. -/
structure Grid.SameTracks (g h : Grid α) : Prop where
  columns : g.columns = h.columns
  rows : g.rows.length = h.rows.length
  widths : g.columnWidths = h.columnWidths
  heights : g.rowHeights = h.rowHeights

theorem Grid.SameTracks.packing {g h : Grid α} (hsame : g.SameTracks h) (padding : α) :
    (g.packing padding).size = (h.packing padding).size ∧
    (g.packing padding).rows = (h.packing padding).rows ∧
    (g.packing padding).columns = (h.packing padding).columns := by
  have hsize : g.size padding = h.size padding := by
    rw [Grid.size, Grid.size, hsame.widths, hsame.heights]
  exact ⟨hsize, hsame.rows, hsame.columns⟩

theorem sameTracks_bestGrid {items items' : List (Item α)}
    (h : items.map Item.size = items'.map Item.size) (padding : α) (objective : Objective) :
    (bestGrid items padding objective).SameTracks (bestGrid items' padding objective) := by
  let plain (item : Item α) : Item α := ⟨0, item.size⟩
  have hplain : items.map plain = items'.map plain := by
    have hsizes := congrArg (List.map (Item.mk 0)) h
    rwa [List.map_map, List.map_map] at hsizes
  have hsame : (bestGrid items padding objective).renumber plain =
      (bestGrid items' padding objective).renumber plain := by
    have hsize : ∀ item, (plain item).size = item.size := fun _ => rfl
    rw [← bestGrid_map hsize, ← bestGrid_map hsize, hplain]
  have hcolumns := congrArg Grid.columns hsame
  have hrows := congrArg (fun g => g.rows.length) hsame
  have hwidths := congrArg Grid.columnWidths hsame
  have hheights := congrArg Grid.rowHeights hsame
  exact ⟨hcolumns, by simpa [Grid.renumber] using hrows, hwidths, hheights⟩

/-! ## The sizes with their corners -/

/-- Where the tracks of a slot start. -/
def Grid.corner? (g : Grid α) (padding : α) (slot : ℕ) : Option (Point α) :=
  match (offsets padding padding g.columnWidths)[slot % g.columns]?,
    (offsets padding padding g.rowHeights)[slot / g.columns]? with
  | some x, some y => some ⟨x, y⟩
  | _, _ => none

def Grid.placed (g : Grid α) (padding : α) (sizes : List (Size α)) : List (Size α × Point α) :=
  sizes.zipIdx.filterMap fun s => (g.corner? padding s.2).map fun corner => (s.1, corner)

theorem Grid.SameTracks.placed {g h : Grid α} (hsame : g.SameTracks h) (padding : α)
    (sizes : List (Size α)) : g.placed padding sizes = h.placed padding sizes := by
  simp only [Grid.placed, Grid.corner?, hsame.columns, hsame.widths, hsame.heights]

section Placed
variable {sizes : List (Size α)} (padding : α) (objective : Objective)

theorem getElem?_positions_pack (hne : sizes ≠ []) {slot : ℕ} {item : Item α}
    (hitem : (sortedItems sizes)[slot]? = some item) : ∃ corner,
      (bestGrid (sortedItems sizes) padding objective).corner? padding slot = some corner ∧
      (pack sizes padding objective).positions[item.index]? = some corner := by
  obtain ⟨r, hr, hle, hbest⟩ := exists_bestGrid_eq (sortedItems sizes) padding objective
  rw [max_eq_right (ceilSqrt_pos (List.length_pos_iff.2 (sortedItems_ne_nil hne)))] at hle
  have hslotted := slotted_gridOf (sortedItems_ne_nil hne) hr hle
  obtain ⟨x, y, hx, hy, hposition⟩ :=
    exists_corner_slot padding (map_index_sortedItems sizes) hr hslotted hitem
  rw [pack_eq_packing padding objective hne, hbest]
  exact ⟨⟨x, y⟩, by rw [Grid.corner?, hx, hy], hposition⟩

/-- The sizes with their positions are the sizes in falling order with the corners of the slots. -/
theorem zip_positions_perm (hne : sizes ≠ []) :
    (sizes.zip (pack sizes padding objective).positions).Perm
      ((bestGrid (sortedItems sizes) padding objective).placed padding
        ((sortedItems sizes).map Item.size)) := by
  let placed := sizes.zip (pack sizes padding objective).positions
  have hlength : placed.length = sizes.length := by
    simp [placed, length_positions_pack]
  have hnumbers : ((sortedItems sizes).map Item.index).Perm (List.range placed.length) :=
    hlength ▸ map_index_sortedItems sizes
  have hitem : ∀ s ∈ (sortedItems sizes).zipIdx, placed[s.1.index]? =
      ((bestGrid (sortedItems sizes) padding objective).corner? padding s.2).map fun corner =>
        (s.1.size, corner) := by
    intro s hs
    have hslot := List.mem_zipIdx_iff_getElem?.1 hs
    obtain ⟨corner, hcorner, hposition⟩ := getElem?_positions_pack padding objective hne hslot
    rw [hcorner]
    exact List.getElem?_zip_eq_some.2
      ⟨mem_sortedItems.1 (List.mem_of_getElem? hslot), hposition⟩
  refine (perm_filterMap_getElem? placed hnumbers).trans (List.Perm.of_eq ?_)
  calc ((sortedItems sizes).map Item.index).filterMap (placed[·]?)
      = ((sortedItems sizes).zipIdx.map Prod.fst).filterMap ((placed[·]?) ∘ Item.index) := by
        rw [List.zipIdx_map_fst, List.filterMap_map]
    _ = (sortedItems sizes).zipIdx.filterMap fun s =>
          ((bestGrid (sortedItems sizes) padding objective).corner? padding s.2).map fun corner =>
            (s.1.size, corner) := by
        rw [List.filterMap_map]
        exact List.filterMap_congr hitem
    _ = (bestGrid (sortedItems sizes) padding objective).placed padding
          ((sortedItems sizes).map Item.size) := by
        rw [Grid.placed, List.zipIdx_map, List.filterMap_map]
        rfl

end Placed

/-! ## Two orders -/

section Orders
variable {sizes sizes' : List (Size α)}

omit [Scalar α] in
theorem getElem?_positions_eq {packing packing' : Packing α} (hdistinct : sizes'.Nodup)
    (hlength : packing.positions.length = sizes.length)
    (hplaced : (sizes.zip packing.positions).Perm (sizes'.zip packing'.positions)) {i j : ℕ}
    {size : Size α} (hi : sizes[i]? = some size) (hj : sizes'[j]? = some size) :
    packing.positions[i]? = packing'.positions[j]? := by
  have hi' : i < packing.positions.length := hlength ▸ (List.getElem?_eq_some_iff.1 hi).1
  have hpair : (sizes.zip packing.positions)[i]? = some (size, packing.positions[i]) :=
    List.getElem?_zip_eq_some.2 ⟨hi, List.getElem?_eq_getElem hi'⟩
  obtain ⟨k, hk⟩ := List.getElem?_of_mem (hplaced.mem_iff.1 (List.mem_of_getElem? hpair))
  obtain ⟨hsize, hposition⟩ := List.getElem?_zip_eq_some.1 hk
  obtain rfl : k = j :=
    (List.getElem?_inj (List.getElem?_eq_some_iff.1 hsize).1 hdistinct).1 (hsize.trans hj.symm)
  rw [hposition, List.getElem?_eq_getElem hi']

theorem nodup_of_pairwise_not_mayTie (horder : OrdersAll α)
    (h : sizes.Pairwise fun a b => ¬MayTie a b) : sizes.Nodup := by
  refine h.imp fun {a b} htie heq => htie ?_
  have hself : comesBefore b b = true := by simpa using comesBefore_total horder b b
  rw [heq]
  exact ⟨hself, hself⟩

/-- Two orders of the same sizes give grids with the same tracks, and the same corners for their
slots. -/
theorem pack_same_tracks (horder : OrdersAll α) (hne : sizes ≠ [])
    (hties : ∀ a ∈ sizes, ∀ b ∈ sizes, MayTie a b → a = b) (h : sizes.Perm sizes') (padding : α)
    (objective : Objective) :
    ((pack sizes padding objective).size = (pack sizes' padding objective).size ∧
      (pack sizes padding objective).rows = (pack sizes' padding objective).rows ∧
      (pack sizes padding objective).columns = (pack sizes' padding objective).columns) ∧
    (sizes.zip (pack sizes padding objective).positions).Perm
      (sizes'.zip (pack sizes' padding objective).positions) := by
  have hne' : sizes' ≠ [] := fun hnil => hne (List.perm_nil.1 (hnil ▸ h))
  have hsizes := map_size_sortedItems_eq horder hties h
  have htracks := sameTracks_bestGrid hsizes padding objective
  constructor
  · rw [pack_eq_packing padding objective hne, pack_eq_packing padding objective hne']
    exact htracks.packing padding
  · refine (zip_positions_perm padding objective hne).trans ?_
    rw [htracks.placed, hsizes]
    exact (zip_positions_perm padding objective hne').symm

end Orders

theorem ordersAll_single : OrdersAll Float32 where
  total x y := by
    change (decide (Single.totalKey x ≤ Single.totalKey y) ||
      decide (Single.totalKey y ≤ Single.totalKey x)) = true
    simpa using Int.le_total _ _
  trans x y z hxy hyz := decide_eq_true ((of_decide_eq_true hxy).trans (of_decide_eq_true hyz))

/-- Coordinates of four bytes tie where the areas have the same bits, up to the two kinds of area that
is no number. -/
theorem mayTie_single_iff {a b : Size Float32} : MayTie a b ↔
    areaRank a = areaRank b ∧ Single.totalKey a.area = Single.totalKey b.area := by
  have hkey : ∀ x y : Float32, Scalar.totalLe x y = true ↔
      Single.totalKey x ≤ Single.totalKey y := fun _ _ => decide_eq_true_iff
  simp only [MayTie, comesBefore, hkey, Bool.or_eq_true, Bool.and_eq_true, decide_eq_true_eq,
    beq_iff_eq]
  omega

/-- Sizes of which only equal ones tie are packed alike in whatever order they are given: the grid has
the same size, rows and columns, and the sizes with their positions are the same. Where no two sizes
tie, every one keeps its position. -/
theorem pack_perm (sizes sizes' : List (Size Float32)) (padding : Float32) (objective : Objective)
    (hties : ∀ a ∈ sizes, ∀ b ∈ sizes, MayTie a b → a = b) (h : sizes.Perm sizes') :
    let packing := pack sizes padding objective
    let packing' := pack sizes' padding objective
    packing.size = packing'.size ∧ packing.rows = packing'.rows ∧
    packing.columns = packing'.columns ∧
    packing.positions.length = sizes.length ∧ packing'.positions.length = sizes'.length ∧
    (sizes.zip packing.positions).Perm (sizes'.zip packing'.positions) ∧
    (sizes.Pairwise (fun a b => ¬MayTie a b) → ∀ (i j : ℕ) size, sizes[i]? = some size →
      sizes'[j]? = some size → packing.positions[i]? = packing'.positions[j]?) := by
  intro packing packing'
  have hlength : packing.positions.length = sizes.length :=
    length_positions_pack padding objective sizes
  have hlength' := length_positions_pack padding objective sizes'
  have hsame : (packing.size = packing'.size ∧ packing.rows = packing'.rows ∧
      packing.columns = packing'.columns) ∧
      (sizes.zip packing.positions).Perm (sizes'.zip packing'.positions) := by
    by_cases hne : sizes = []
    · obtain rfl : sizes' = [] := List.perm_nil.1 (hne ▸ h.symm)
      simp [packing, packing', hne]
    · exact pack_same_tracks ordersAll_single hne hties h padding objective
  obtain ⟨⟨hsize, hrows, hcolumns⟩, hplaced⟩ := hsame
  refine ⟨hsize, hrows, hcolumns, hlength, hlength', hplaced, fun hdistinct i j size => ?_⟩
  have hnodup := h.nodup_iff.1 (nodup_of_pairwise_not_mayTie ordersAll_single hdistinct)
  exact getElem?_positions_eq hnodup hlength hplaced

/-- Coordinates of four bytes: two equal sizes, and others of which one is no number. -/
def mixedSizes : List (Size Float32) :=
  [⟨Single.ofNat 2, Single.ofNat 3⟩, ⟨Single.undefined, Single.ofNat 1⟩,
    ⟨Single.ofNat 2, Single.ofNat 3⟩, ⟨Single.ofNat 4, Single.ofNat 1⟩]

theorem pack_perm_mixedSizes :
    (∀ a ∈ mixedSizes, ∀ b ∈ mixedSizes, MayTie a b → a = b) ∧
    mixedSizes.Perm mixedSizes.reverse ∧
    (pack mixedSizes (Single.ofNat 1) .squareAspect).rows =
      (pack mixedSizes.reverse (Single.ofNat 1) .squareAspect).rows ∧
    (mixedSizes.zip (pack mixedSizes (Single.ofNat 1) .squareAspect).positions).Perm
      (mixedSizes.reverse.zip
        (pack mixedSizes.reverse (Single.ofNat 1) .squareAspect).positions) ∧
    (mixedSizes.tail.Pairwise fun a b => ¬MayTie a b) ∧
    (pack mixedSizes.tail (Single.ofNat 1) .minArea).positions[0]? =
      (pack mixedSizes.tail.reverse (Single.ofNat 1) .minArea).positions[2]? := by
  have hties : ∀ a ∈ mixedSizes, ∀ b ∈ mixedSizes,
      comesBefore a b = true ∧ comesBefore b a = true → a = b := by
    decide
  have hdistinct : mixedSizes.tail.Pairwise fun a b =>
      ¬(comesBefore a b = true ∧ comesBefore b a = true) := by
    decide
  have hperm : mixedSizes.Perm mixedSizes.reverse := (List.reverse_perm mixedSizes).symm
  obtain ⟨-, hrows, -, -, -, hplaced, -⟩ :=
    pack_perm mixedSizes mixedSizes.reverse (Single.ofNat 1) .squareAspect hties hperm
  have htail : ∀ a ∈ mixedSizes.tail, ∀ b ∈ mixedSizes.tail, MayTie a b → a = b :=
    fun a ha b hb => hties a (List.mem_of_mem_tail ha) b (List.mem_of_mem_tail hb)
  obtain ⟨-, -, -, -, -, -, hposition⟩ := pack_perm mixedSizes.tail mixedSizes.tail.reverse
    (Single.ofNat 1) .minArea htail (List.reverse_perm _).symm
  exact ⟨hties, hperm, hrows, hplaced, hdistinct, hposition hdistinct 0 2 _ rfl rfl⟩

end Layout

end RefAtlas
