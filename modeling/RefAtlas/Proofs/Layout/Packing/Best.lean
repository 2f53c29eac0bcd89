import Mathlib.Order.Filter.Extr
import RefAtlas.Proofs.Layout.Packing.Extents

/-! # The best grid

Over exact coordinates the search that keeps the best grid so far ends with the first of all grids
that has the least score.

* `ByFallingArea`: the order in which items are put into grids.
* `RowMajor`: the packing for a number of rows, said by its slots and tracks alone;
  `rowMajor_iff` says that the grid with this number of rows is the only one.
* `Objective.value`: the scores as numbers or infinity.
* `pack_first_best`: the packing is the one for the first number of rows with the least score.
-/

namespace RefAtlas.Layout
open RefAtlas.Number
set_option autoImplicit false

/-! ## The order of items -/

/-- The first item is greater, or it is equally large and stands before the second one in the
input. -/
def Precedes (a b : Item ℚ) : Prop :=
  b.size.area < a.size.area ∨ a.size.area = b.size.area ∧ a.index < b.index

/-- The items of the input, the greatest first, and equally large ones in the order of the input. -/
structure ByFallingArea (sizes : List (Size ℚ)) (items : List (Item ℚ)) : Prop where
  perm : items.Perm (sizes.zipIdx.map fun s => ⟨s.2, s.1⟩)
  falling : items.Pairwise Precedes

theorem Precedes.asymm {a b : Item ℚ} (h : Precedes a b) : ¬Precedes b a := by
  rintro (hless | ⟨hsame, hindex⟩)
  · rcases h with hmore | ⟨hsame, -⟩
    · exact lt_asymm hless hmore
    · exact hless.ne hsame
  · rcases h with hmore | ⟨-, hindex'⟩
    · exact hmore.ne hsame
    · exact Nat.lt_asymm hindex hindex'

theorem ByFallingArea.unique {sizes : List (Size ℚ)} {items other : List (Item ℚ)}
    (h : ByFallingArea sizes items) (h' : ByFallingArea sizes other) : items = other :=
  (h.perm.trans h'.perm.symm).eq_of_pairwise (fun _ _ _ _ hab hba => absurd hba hab.asymm)
    h.falling h'.falling

theorem comesBefore_rat (a b : Size ℚ) : comesBefore a b = decide (b.area ≤ a.area) := by
  have hrank : ∀ size : Size ℚ, areaRank size = 1 := by
    intro size
    simp [areaRank]
  rw [comesBefore, hrank, hrank]
  simp [Scalar.totalLe]

section Pairs
variable {β : Type} {l : List β} {a b : β}

theorem pair_sublist {i j : ℕ} (hij : i < j)
    (ha : l[i]? = some a) (hb : l[j]? = some b) : [a, b].Sublist l := by
  have hfirst : [a].Sublist (l.take j) := by
    refine List.singleton_sublist.2 (List.mem_of_getElem? (i := i) ?_)
    rw [List.getElem?_take_of_lt hij, ha]
  have hsecond : [b].Sublist (l.drop j) := by
    refine List.singleton_sublist.2 (List.mem_of_getElem? (i := 0) ?_)
    rw [List.getElem?_drop, Nat.add_zero, hb]
  have hboth := hfirst.append hsecond
  rwa [List.take_append_drop] at hboth

theorem not_pair_sublist_swap (h : l.Nodup) (hab : [a, b].Sublist l) : ¬[b, a].Sublist l := by
  intro hba
  obtain ⟨before, behind, rfl, ha, hb⟩ := List.cons_sublist_iff.1 hab
  obtain ⟨before', behind', hsame, hb', ha'⟩ := List.cons_sublist_iff.1 hba
  rw [List.singleton_sublist] at hb ha'
  have hdisjoint := List.disjoint_of_nodup_append h
  have hdisjoint' := List.disjoint_of_nodup_append (hsame ▸ h)
  have hfirst : before <+: before' ++ behind' := hsame ▸ List.prefix_append before behind
  rcases List.prefix_or_prefix_of_prefix hfirst (List.prefix_append before' behind') with hle | hle
  · exact hdisjoint' (hle.subset ha) ha'
  · exact hdisjoint (hle.subset hb') hb

end Pairs

theorem getElem?_numbered {sizes : List (Size ℚ)} {item : Item ℚ} (h : item ∈ sortedItems sizes) :
    (sizes.zipIdx.map fun s => Item.mk s.2 s.1)[item.index]? = some item := by
  rw [List.getElem?_map, List.getElem?_zipIdx, mem_sortedItems.1 h, Nat.zero_add]
  rfl

/-- Sorting keeps the order of the input among items of equal area. -/
theorem byFallingArea_sortedItems (sizes : List (Size ℚ)) :
    ByFallingArea sizes (sortedItems sizes) := by
  refine ⟨sortedItems_perm sizes, ?_⟩
  have htrans : ∀ a b c : Item ℚ, comesBefore a.size b.size = true →
      comesBefore b.size c.size = true → comesBefore a.size c.size = true := by
    simp only [comesBefore_rat, decide_eq_true_eq]
    exact fun _ _ _ hab hbc => hbc.trans hab
  have htotal : ∀ a b : Item ℚ, (comesBefore a.size b.size || comesBefore b.size a.size) = true := by
    simp only [comesBefore_rat, Bool.or_eq_true, decide_eq_true_eq]
    exact fun a b => le_total b.size.area a.size.area
  have hnodup : ((sortedItems sizes).map Item.index).Nodup :=
    (map_index_sortedItems sizes).nodup_iff.2 List.nodup_range
  rw [List.pairwise_iff_forall_sublist]
  intro a b hab
  have hbefore := List.pairwise_iff_forall_sublist.1 (List.pairwise_mergeSort htrans htotal _) hab
  have hindex : a.index ≠ b.index :=
    List.pairwise_iff_forall_sublist.1 (List.pairwise_map.1 hnodup) hab
  rw [comesBefore_rat, decide_eq_true_eq] at hbefore
  rcases hbefore.lt_or_eq with hless | hsame
  · exact .inl hless
  refine .inr ⟨hsame.symm, Nat.lt_of_le_of_ne (Nat.le_of_not_lt fun hlt => ?_) hindex⟩
  -- Were they the other way round in the input, they would be so behind the sorting too.
  have hmem : ∀ c ∈ [a, b], c ∈ sortedItems sizes := fun c hc => hab.subset hc
  have hinput := pair_sublist hlt (getElem?_numbered (hmem b (by simp)))
    (getElem?_numbered (hmem a (by simp)))
  have hle : comesBefore b.size a.size = true := by
    rw [comesBefore_rat, decide_eq_true_eq]
    exact hsame.ge
  exact not_pair_sublist_swap (List.Nodup.of_map _ hnodup) hab
    (List.pair_sublist_mergeSort htrans htotal hle hinput)

/-! ## One packing for each number of rows -/

/-- The packing that puts items row by row into as many columns as are needed for at most `r`
rows. -/
def RowMajor (items : List (Item ℚ)) (padding : ℚ) (r : ℕ) (packing : Packing ℚ) : Prop :=
  packing.columns = items.length ⌈/⌉ r ∧ packing.rows = items.length ⌈/⌉ packing.columns ∧
    ∃ widths heights, Arranged items padding packing widths heights

section RowMajor
variable {items : List (Item ℚ)} {padding : ℚ} {r : ℕ}

theorem Extents.unique {rows columns : ℕ} {widths heights widths' heights' : List ℚ}
    (h : Extents items rows columns widths heights)
    (h' : Extents items rows columns widths' heights') : widths = widths' ∧ heights = heights' := by
  constructor
  · refine List.ext_getElem (h.length_widths.trans h'.length_widths.symm) fun column hc hc' => ?_
    exact (h.widest column _ (List.getElem?_eq_getElem hc)).unique
      (h'.widest column _ (List.getElem?_eq_getElem hc'))
  · refine List.ext_getElem (h.length_heights.trans h'.length_heights.symm) fun row hr hr' => ?_
    exact (h.highest row _ (List.getElem?_eq_getElem hr)).unique
      (h'.highest row _ (List.getElem?_eq_getElem hr'))

theorem Arranged.unique {packing packing' : Packing ℚ} {widths heights widths' heights' : List ℚ}
    (hnumbers : (items.map Item.index).Perm (List.range items.length))
    (h : Arranged items padding packing widths heights)
    (h' : Arranged items padding packing' widths' heights')
    (hrows : packing.rows = packing'.rows) (hcolumns : packing.columns = packing'.columns) :
    packing = packing' := by
  obtain ⟨positions, ⟨width, height⟩, rows, columns⟩ := packing
  obtain ⟨positions', ⟨width', height'⟩, rows', columns'⟩ := packing'
  obtain rfl : rows = rows' := hrows
  obtain rfl : columns = columns' := hcolumns
  obtain ⟨rfl, rfl⟩ := h.extents.unique h'.extents
  obtain rfl : width = width' := h.width.trans h'.width.symm
  obtain rfl : height = height' := h.height.trans h'.height.symm
  have hpositions : positions = positions' := by
    refine List.ext_getElem? fun i => ?_
    by_cases hi : i < items.length
    · obtain ⟨item, hitem, rfl⟩ := List.mem_map.1 (hnumbers.mem_iff.2 (List.mem_range.2 hi))
      obtain ⟨slot, hslot⟩ := List.getElem?_of_mem hitem
      exact (h.corner slot item hslot).trans (h'.corner slot item hslot).symm
    · rw [List.getElem?_eq_none (h.length_positions.trans_le (Nat.le_of_not_lt hi)),
        List.getElem?_eq_none (h'.length_positions.trans_le (Nat.le_of_not_lt hi))]
  rw [hpositions]

theorem rowMajor_iff (hnumbers : (items.map Item.index).Perm (List.range items.length))
    (hsides : ∀ item ∈ items, 0 ≤ item.size.width ∧ 0 ≤ item.size.height) (hne : items ≠ [])
    (hr : 0 < r) (hle : r ≤ ceilSqrt items.length) {packing : Packing ℚ} :
    RowMajor items padding r packing ↔ packing = (gridOf items r).packing padding := by
  have harranged := arranged_packing padding hnumbers hne hr hle hsides
  have hshape := shape_gridOf hne hr hle
  have hcolumns : ((gridOf items r).packing padding).columns = items.length ⌈/⌉ r :=
    hshape.columns_eq
  have hrows : ((gridOf items r).packing padding).rows =
      items.length ⌈/⌉ ((gridOf items r).packing padding).columns := hshape.rows_eq
  constructor
  · rintro ⟨hcolumns', hrows', widths, heights, hpacking⟩
    have hsame := hcolumns'.trans hcolumns.symm
    exact hpacking.unique hnumbers harranged (by rw [hrows', hrows, hsame]) hsame
  · rintro rfl
    exact ⟨hcolumns, hrows, _, _, harranged⟩

end RowMajor

/-! ## Scores -/

/-- The number that is to be as small as possible: the area, or how far a box is from a square. A
box of no height is infinitely far from it, unless it has no width either. -/
def Objective.value : Objective → Size ℚ → WithTop ℚ
  | .minArea, size => ((size.width * size.height : ℚ) : WithTop ℚ)
  | .squareAspect, size =>
    if 0 < size.height then ((|size.width / size.height - 1| : ℚ) : WithTop ℚ)
    else if 0 < size.width then ⊤
    else 0

def Score.toWithTop : Score ℚ → WithTop ℚ
  | .value x => x
  | .unbounded => ⊤

theorem Score.better_iff (s t : Score ℚ) : s.better t = true ↔ s.toWithTop < t.toWithTop := by
  cases s with
  | value x =>
    cases t with
    | value y => simp [Score.better, Score.toWithTop]
    | unbounded => simp [Score.better, Score.toWithTop, Scalar.isBelowInfinity]
  | unbounded => cases t <;> simp [Score.better, Score.toWithTop]

theorem Objective.toWithTop_score (objective : Objective) (size : Size ℚ) :
    (objective.score size).toWithTop = objective.value size := by
  cases objective with
  | minArea => rfl
  | squareAspect =>
    have hheight : Scalar.isPositive size.height = decide (0 < size.height) := by
      simp [Scalar.isPositive]
    have hwidth : Scalar.isPositive size.width = decide (0 < size.width) := by
      simp [Scalar.isPositive]
    rw [Objective.score, Objective.value, hheight, hwidth]
    by_cases hh : 0 < size.height
    · simp [hh, Score.toWithTop, Scalar.abs]
    · by_cases hw : 0 < size.width <;> simp [hh, hw, Score.toWithTop]

/-! ## The search -/

/-- The numbers from `1` to `m` for which a value is least. -/
def leastAt (value : ℕ → WithTop ℚ) (m : ℕ) : Set ℕ :=
  {r ∈ Set.Icc 1 m | IsMinOn value (Set.Icc 1 m) r}

section Search
variable {value : ℕ → WithTop ℚ} {m best : ℕ}

theorem isLeast_leastAt_of_lt (h : IsLeast (leastAt value m) best)
    (hless : value (m + 1) < value best) : IsLeast (leastAt value (m + 1)) (m + 1) := by
  obtain ⟨⟨-, hmin⟩, -⟩ := h
  refine ⟨⟨⟨Nat.succ_pos m, le_refl _⟩, fun r hr => ?_⟩, ?_⟩
  · rcases Nat.le_succ_iff.1 hr.2 with hle | rfl
    · exact hless.le.trans (hmin ⟨hr.1, hle⟩)
    · exact le_refl (value (m + 1))
  · rintro r ⟨hr, hrmin⟩
    refine Nat.le_of_not_lt fun hlt => ?_
    have hbest := hmin ⟨hr.1, Nat.le_of_lt_succ hlt⟩
    have hnew := hrmin ⟨Nat.succ_pos m, le_refl (m + 1)⟩
    exact absurd (hbest.trans hnew) (not_le_of_gt hless)

theorem isLeast_leastAt_of_le (h : IsLeast (leastAt value m) best)
    (hmore : value best ≤ value (m + 1)) : IsLeast (leastAt value (m + 1)) best := by
  obtain ⟨⟨hmem, hmin⟩, hfirst⟩ := h
  refine ⟨⟨⟨hmem.1, Nat.le_succ_of_le hmem.2⟩, fun r hr => ?_⟩, ?_⟩
  · rcases Nat.le_succ_iff.1 hr.2 with hle | rfl
    · exact hmin ⟨hr.1, hle⟩
    · exact hmore
  · rintro r ⟨hr, hrmin⟩
    rcases Nat.le_succ_iff.1 hr.2 with hle | rfl
    · refine hfirst ⟨⟨hr.1, hle⟩, fun k hk => ?_⟩
      exact hrmin ⟨hk.1, Nat.le_succ_of_le hk.2⟩
    · exact Nat.le_succ_of_le hmem.2

end Search

theorem betterGrid_rat (padding : ℚ) (objective : Objective) (best other : Grid ℚ) :
    betterGrid padding objective best other =
      if objective.value (other.size padding) < objective.value (best.size padding) then other
      else best := by
  have hbetter := Score.better_iff (objective.score (other.size padding))
    (objective.score (best.size padding))
  rw [Objective.toWithTop_score, Objective.toWithTop_score] at hbetter
  exact if_congr hbetter rfl rfl

/-- The best grid so far is the first one of those that were tried. -/
theorem exists_foldl_betterGrid (items : List (Item ℚ)) (padding : ℚ) (objective : Objective)
    (m : ℕ) : ∃ best,
      IsLeast (leastAt (fun r => objective.value ((gridOf items r).size padding)) (m + 1)) best ∧
      ((List.range' 2 m).map (gridOf items)).foldl (betterGrid padding objective)
        (gridOf items 1) = gridOf items best := by
  induction m with
  | zero =>
    refine ⟨1, ⟨⟨⟨le_refl 1, le_refl 1⟩, fun r hr => ?_⟩, fun r hr => hr.1.1⟩, rfl⟩
    rw [Nat.le_antisymm hr.2 hr.1]
    exact le_refl (objective.value ((gridOf items 1).size padding))
  | succ m ih =>
    obtain ⟨best, hbest, hfold⟩ := ih
    have hnext : 2 + 1 * m = m + 1 + 1 := by omega
    rw [List.range'_concat, hnext, List.map_append, List.foldl_append, hfold]
    change ∃ best', _ ∧ betterGrid padding objective (gridOf items best) (gridOf items (m + 1 + 1)) =
      gridOf items best'
    rw [betterGrid_rat]
    by_cases hless : objective.value ((gridOf items (m + 1 + 1)).size padding) <
        objective.value ((gridOf items best).size padding)
    · exact ⟨m + 1 + 1, isLeast_leastAt_of_lt hbest hless, by rw [if_pos hless]⟩
    · exact ⟨best, isLeast_leastAt_of_le hbest (le_of_not_gt hless), by rw [if_neg hless]⟩

/-- There is one order of the items by falling area and, for each number of rows that is tried, one
packing row by row. The result is the one for the first number of rows with the least score. -/
theorem pack_first_best (sizes : List (Size ℚ)) (padding : ℚ) (objective : Objective)
    (hne : sizes ≠ []) (hsides : ∀ size ∈ sizes, 0 ≤ size.width ∧ 0 ≤ size.height) :
    ∃ items, (∀ other, ByFallingArea sizes other ↔ other = items) ∧
    ∃ candidate : ℕ → Packing ℚ,
      (∀ r ∈ Set.Icc 1 ⌈√(sizes.length : ℝ)⌉₊, ∀ packing,
        RowMajor items padding r packing ↔ packing = candidate r) ∧
      ∃ best, pack sizes padding objective = candidate best ∧
        IsLeast {r ∈ Set.Icc 1 ⌈√(sizes.length : ℝ)⌉₊ |
          IsMinOn (fun r => objective.value (candidate r).size)
            (Set.Icc 1 ⌈√(sizes.length : ℝ)⌉₊) r} best := by
  have hlength := length_sortedItems sizes
  have hnumbers := map_index_sortedItems sizes
  have hitems := sortedItems_ne_nil hne
  have hroot : ceilSqrt sizes.length - 1 + 1 = ceilSqrt sizes.length :=
    Nat.sub_add_cancel (ceilSqrt_pos (List.length_pos_iff.2 hne))
  rw [← hlength] at hnumbers hroot
  rw [← ceilSqrt_eq, ← hlength]
  refine ⟨sortedItems sizes, fun other => ⟨fun h => h.unique (byFallingArea_sortedItems sizes), ?_⟩,
    fun r => (gridOf (sortedItems sizes) r).packing padding, fun r hr packing =>
    rowMajor_iff hnumbers (sides_sortedItems hsides) hitems hr.1 hr.2, ?_⟩
  · rintro rfl
    exact byFallingArea_sortedItems sizes
  · obtain ⟨best, hbest, hfold⟩ := exists_foldl_betterGrid (sortedItems sizes) padding objective
      (ceilSqrt (sortedItems sizes).length - 1)
    rw [hroot] at hbest
    refine ⟨best, ?_, hbest⟩
    rw [pack_eq_packing padding objective hne, bestGrid, hfold]

theorem pack_first_best_flatSizes : flatSizes ≠ [] ∧
    (∀ size ∈ flatSizes, 0 ≤ size.width ∧ 0 ≤ size.height) ∧
    ∃ items, ByFallingArea flatSizes items ∧ ∃ candidate : ℕ → Packing ℚ,
      (∀ r ∈ Set.Icc 1 2, RowMajor items 7 r (candidate r)) ∧
      ∃ best ∈ Set.Icc 1 2, pack flatSizes 7 .squareAspect = candidate best ∧
        ∀ r ∈ Set.Icc 1 2, Objective.squareAspect.value (candidate best).size ≤
          Objective.squareAspect.value (candidate r).size := by
  have hne : flatSizes ≠ [] := List.cons_ne_nil _ _
  have hroot : ⌈√(flatSizes.length : ℝ)⌉₊ = 2 := by
    rw [← ceilSqrt_eq]
    decide
  obtain ⟨items, horder, candidate, hcandidate, best, hpack, ⟨hmem, hmin⟩, -⟩ :=
    pack_first_best flatSizes 7 .squareAspect hne sides_flatSizes
  rw [hroot] at hcandidate hmem hmin
  exact ⟨hne, sides_flatSizes, items, (horder items).2 rfl, candidate,
    fun r hr => (hcandidate r hr _).2 rfl, best, hmem, hpack, fun r hr => hmin hr⟩

end RefAtlas.Layout
