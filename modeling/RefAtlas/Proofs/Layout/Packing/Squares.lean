import RefAtlas.Proofs.Layout.Packing.Best

/-! # A square number of equal squares

Over exact coordinates equal items fill a grid whose tracks all have the same extent, so the size of
a grid only depends on how many rows and columns it has. Of the grids that are tried for `k * k`
squares the one with `k` rows is the last; all others are wider than high and, with a padding,
larger.

* `sortedItems_replicate`: equal items keep the order of the input.
* `Extents.eq_replicate`, `size_gridOf_equal`: the tracks and the size of a grid of equal items.
* `value_square_lt`: a square grid has a lesser score than a grid with fewer rows.
* `pack_squares`: the packing of a square number of equal squares.
-/

namespace RefAtlas.Layout
open RefAtlas.Number
set_option autoImplicit false

/-! ## Equal items -/

def equalItems (n : ℕ) (size : Size ℚ) : List (Item ℚ) := (List.range n).map fun i => ⟨i, size⟩

section Equal
variable {n : ℕ} {size : Size ℚ}

theorem length_equalItems (n : ℕ) (size : Size ℚ) : (equalItems n size).length = n := by
  rw [equalItems, List.length_map, List.length_range]

theorem getElem?_equalItems {i : ℕ} (hi : i < n) : (equalItems n size)[i]? = some ⟨i, size⟩ := by
  rw [equalItems, List.getElem?_map, List.getElem?_range hi]
  rfl

theorem size_of_mem_equalItems {item : Item ℚ} (h : item ∈ equalItems n size) :
    item.size = size := by
  obtain ⟨i, -, rfl⟩ := List.mem_map.1 h
  rfl

theorem sortedItems_replicate (n : ℕ) (size : Size ℚ) :
    sortedItems (List.replicate n size) = equalItems n size := by
  refine (byFallingArea_sortedItems _).unique ⟨List.Perm.of_eq ?_, ?_⟩
  · refine List.ext_getElem? fun i => ?_
    rw [equalItems, List.getElem?_map, List.getElem?_map, List.getElem?_zipIdx, Nat.zero_add]
    by_cases hi : i < n
    · rw [List.getElem?_range hi, List.getElem?_replicate, if_pos hi]
      rfl
    · rw [List.getElem?_replicate, if_neg hi, List.getElem?_eq_none (by simpa using hi)]
      rfl
  · refine List.pairwise_map.2 (List.pairwise_lt_range.imp fun hlt => ?_)
    exact .inr ⟨rfl, hlt⟩

theorem Extents.eq_replicate {items : List (Item ℚ)} {rows columns : ℕ} {widths heights : List ℚ}
    (h : Extents items rows columns widths heights) (hsize : ∀ item ∈ items, item.size = size) :
    widths = List.replicate columns size.width ∧ heights = List.replicate rows size.height := by
  constructor
  · refine List.eq_replicate_iff.2 ⟨h.length_widths, fun w hw => ?_⟩
    obtain ⟨column, hcolumn⟩ := List.getElem?_of_mem hw
    obtain ⟨item, ⟨slot, hitem, -⟩, rfl⟩ := (h.widest column w hcolumn).1
    exact congrArg Size.width (hsize item (List.mem_of_getElem? hitem))
  · refine List.eq_replicate_iff.2 ⟨h.length_heights, fun w hw => ?_⟩
    obtain ⟨row, hrow⟩ := List.getElem?_of_mem hw
    obtain ⟨item, ⟨slot, hitem, -⟩, rfl⟩ := (h.highest row w hrow).1
    exact congrArg Size.height (hsize item (List.mem_of_getElem? hitem))

def equalExtent (count : ℕ) (extent padding : ℚ) : ℚ := count * extent + (count + 1) * padding

theorem trackStart_replicate (padding extent : ℚ) {count c : ℕ} (hc : c < count) :
    trackStart padding (List.replicate count extent) c = padding + c * (extent + padding) := by
  rw [trackStart, List.take_replicate, Nat.min_eq_left (Nat.le_of_lt hc), List.sum_replicate,
    nsmul_eq_mul]
  ring

end Equal

/-! ## Packings of equal items -/

/-- A packing of equal items is known by its rows and columns. -/
theorem Arranged.equal {n : ℕ} {size : Size ℚ} {padding : ℚ} {packing : Packing ℚ}
    {widths heights : List ℚ} (h : Arranged (equalItems n size) padding packing widths heights)
    (hcolumns : 0 < packing.columns) (hholds : n ≤ packing.rows * packing.columns) :
    packing.size = ⟨equalExtent packing.columns size.width padding,
      equalExtent packing.rows size.height padding⟩ ∧
    packing.positions = (List.range n).map fun i =>
      ⟨padding + (i % packing.columns : ℕ) * (size.width + padding),
        padding + (i / packing.columns : ℕ) * (size.height + padding)⟩ := by
  obtain ⟨hwidths, hheights⟩ := h.extents.eq_replicate fun _ => size_of_mem_equalItems
  constructor
  · have hwidth := h.width
    have hheight := h.height
    rw [hwidths, List.sum_replicate, nsmul_eq_mul, mul_comm padding] at hwidth
    rw [hheights, List.sum_replicate, nsmul_eq_mul, mul_comm padding] at hheight
    obtain ⟨positions, ⟨width, height⟩, rows, columns⟩ := packing
    exact congrArg₂ Size.mk hwidth hheight
  · have hlength := h.length_positions.trans (length_equalItems n size)
    refine List.ext_getElem? fun i => ?_
    by_cases hi : i < n
    · have hrow : i / packing.columns < packing.rows :=
        (Nat.div_lt_iff_lt_mul hcolumns).2 (hi.trans_le hholds)
      have hcorner := h.corner i _ (getElem?_equalItems hi)
      rw [hwidths, hheights, trackStart_replicate _ _ (Nat.mod_lt i hcolumns),
        trackStart_replicate _ _ hrow] at hcorner
      rw [List.getElem?_map, List.getElem?_range hi]
      exact hcorner
    · rw [List.getElem?_eq_none (by omega), List.getElem?_eq_none (by simpa using hi)]

section Grids
variable {n r : ℕ} (size : Size ℚ) (padding : ℚ)

theorem packing_gridOf_equal (hn : 0 < n) (hr : 0 < r) (hle : r ≤ ceilSqrt n)
    (hwidth : 0 ≤ size.width) (hheight : 0 ≤ size.height) :
    ∃ rows columns, GridShape n r rows columns ∧
      (gridOf (equalItems n size) r).packing padding =
        { positions := (List.range n).map fun i =>
            ⟨padding + (i % columns : ℕ) * (size.width + padding),
              padding + (i / columns : ℕ) * (size.height + padding)⟩
          size := ⟨equalExtent columns size.width padding, equalExtent rows size.height padding⟩
          rows := rows
          columns := columns } := by
  have hlength := length_equalItems n size
  have hne : equalItems n size ≠ [] := List.length_pos_iff.1 (hlength.symm ▸ hn)
  have hnumbers : ((equalItems n size).map Item.index).Perm
      (List.range (equalItems n size).length) := by
    rw [hlength, equalItems, List.map_map]
    exact List.Perm.of_eq (List.map_id _)
  have hsides : ∀ item ∈ equalItems n size, 0 ≤ item.size.width ∧ 0 ≤ item.size.height := by
    intro item hitem
    rw [size_of_mem_equalItems hitem]
    exact ⟨hwidth, hheight⟩
  have hshape := shape_gridOf hne hr (hlength.symm ▸ hle)
  have harranged := arranged_packing padding hnumbers hne hr (hlength.symm ▸ hle) hsides
  rw [hlength] at hshape
  obtain ⟨hsize, hpositions⟩ := harranged.equal (hshape.columns_pos hn) hshape.holds
  refine ⟨_, _, hshape, ?_⟩
  exact congrArg₂ (fun positions size => Packing.mk positions size _ _) hpositions hsize

end Grids

/-! ## Square grids are best -/

section Square
variable {k rows columns : ℕ} {side padding : ℚ}

/-- With fewer rows than columns for `k * k` cells there are more than `2 * k` of both together. -/
theorem lt_add_of_lt (hholds : k * k ≤ rows * columns) (hless : rows < columns) :
    2 * k < rows + columns := by
  by_contra hle
  obtain ⟨d, rfl⟩ : ∃ d, columns = rows + d + 1 := ⟨columns - rows - 1, by omega⟩
  nlinarith

/-- A square has the least score of all grids that hold as many cells and have fewer rows than
columns. -/
theorem value_square_lt (hside : 0 < side) (hpadding : 0 < padding) (objective : Objective)
    (hholds : k * k ≤ rows * columns) (hless : rows < columns) :
    objective.value ⟨equalExtent k side padding, equalExtent k side padding⟩ <
      objective.value ⟨equalExtent columns side padding, equalExtent rows side padding⟩ := by
  have hextent : ∀ count : ℕ, equalExtent count side padding =
      count * (side + padding) + padding := by
    intro count
    rw [equalExtent]
    ring
  have hpos : ∀ count : ℕ, 0 < equalExtent count side padding := by
    intro count
    rw [equalExtent]
    positivity
  cases objective with
  | minArea =>
    have hcells : (k : ℚ) * k ≤ rows * columns := by exact_mod_cast hholds
    have hsum : 2 * (k : ℚ) < rows + columns := by exact_mod_cast lt_add_of_lt hholds hless
    refine WithTop.coe_lt_coe.2 ?_
    rw [hextent, hextent, hextent]
    have hpitch : 0 < side + padding := add_pos hside hpadding
    have harea := mul_le_mul_of_nonneg_left hcells (mul_pos hpitch hpitch).le
    have hborder := mul_lt_mul_of_pos_left hsum (mul_pos hpitch hpadding)
    linarith
  | squareAspect =>
    have hwider : equalExtent rows side padding < equalExtent columns side padding := by
      have hcount : (rows : ℚ) < columns := by exact_mod_cast hless
      rw [hextent, hextent]
      nlinarith
    have hratio := (one_lt_div (hpos rows)).2 hwider
    rw [Objective.value, Objective.value, if_pos (hpos k), if_pos (hpos rows)]
    refine WithTop.coe_lt_coe.2 ?_
    rw [div_self (hpos k).ne', sub_self, abs_zero]
    exact abs_pos.2 (sub_pos.2 hratio).ne'

theorem ceilSqrt_mul_self (k : ℕ) : ceilSqrt (k * k) = k :=
  eq_of_forall_ge_iff fun _ => ceilSqrt_le_iff.trans Nat.mul_self_le_mul_self_iff

theorem ceilDiv_mul_self (hk : 0 < k) : k * k ⌈/⌉ k = k :=
  eq_of_forall_ge_iff fun _ => (ceilDiv_le_iff_le_mul hk).trans (Nat.mul_le_mul_left_iff hk)

theorem GridShape.eq_of_square (h : GridShape (k * k) k rows columns) (hk : 0 < k) :
    rows = k ∧ columns = k := by
  have hcolumns : columns = k := h.columns_eq.trans (ceilDiv_mul_self hk)
  exact ⟨by rw [h.rows_eq, hcolumns, ceilDiv_mul_self hk], hcolumns⟩

theorem GridShape.lt_of_square {r : ℕ} (h : GridShape (k * k) r rows columns) (hr : r < k) :
    rows < columns := by
  have hrows := h.rows_le
  have hholds := h.holds
  by_contra hle
  have hcells : rows * columns ≤ r * r :=
    Nat.mul_le_mul hrows ((Nat.le_of_not_lt hle).trans hrows)
  have hfull : r * r < k * k := Nat.mul_self_lt_mul_self hr
  omega

end Square

/-- The best of all grids that are tried is the first one with the least score. -/
theorem exists_best_rows {items : List (Item ℚ)} (hne : items ≠ []) (padding : ℚ)
    (objective : Objective) : ∃ best,
      IsLeast (leastAt (fun r => objective.value ((gridOf items r).packing padding).size)
        (ceilSqrt items.length)) best ∧
      bestGrid items padding objective = gridOf items best := by
  have hroot : ceilSqrt items.length - 1 + 1 = ceilSqrt items.length :=
    Nat.sub_add_cancel (ceilSqrt_pos (List.length_pos_iff.2 hne))
  have hfound := exists_foldl_betterGrid items padding objective (ceilSqrt items.length - 1)
  rwa [hroot] at hfound

/-- A square number of equal squares with a padding is packed as a square, row by row in the order
of the input. -/
theorem pack_squares {k : ℕ} (hk : 0 < k) {side padding : ℚ} (hside : 0 < side)
    (hpadding : 0 < padding) (objective : Objective) :
    pack (List.replicate (k * k) ⟨side, side⟩) padding objective =
      { positions := (List.range (k * k)).map fun i =>
          ⟨padding + (i % k : ℕ) * (side + padding), padding + (i / k : ℕ) * (side + padding)⟩
        size := ⟨k * side + (k + 1) * padding, k * side + (k + 1) * padding⟩
        rows := k
        columns := k } := by
  have hn : 0 < k * k := Nat.mul_pos hk hk
  have hroot := ceilSqrt_mul_self k
  let size : Size ℚ := ⟨side, side⟩
  have hlength : (equalItems (k * k) size).length = k * k := length_equalItems _ _
  have hne : equalItems (k * k) size ≠ [] := List.length_pos_iff.1 (hlength.symm ▸ hn)
  have hgrid : ∀ r, 0 < r → r ≤ k → _ := fun r hr hle =>
    packing_gridOf_equal size padding hn hr (hroot.symm ▸ hle) hside.le hside.le
  obtain ⟨rows, columns, hshape, hsquare⟩ := hgrid k hk le_rfl
  obtain ⟨hrows, hcolumns⟩ := hshape.eq_of_square hk
  rw [hrows, hcolumns] at hsquare
  obtain ⟨best, ⟨⟨hbest, hmin⟩, -⟩, hpack⟩ := exists_best_rows hne padding objective
  rw [hlength, hroot] at hbest hmin
  -- a grid with fewer rows would not be best, for the square one is tried too
  have hlast : best = k := by
    refine le_antisymm hbest.2 (Nat.le_of_not_lt fun hless => ?_)
    obtain ⟨rows', columns', hshape', hother⟩ := hgrid best hbest.1 hbest.2
    have hle : objective.value ((gridOf (equalItems (k * k) size) best).packing padding).size ≤
        objective.value ((gridOf (equalItems (k * k) size) k).packing padding).size :=
      hmin (Set.mem_Icc.2 ⟨hk, le_rfl⟩)
    rw [hsquare, hother] at hle
    exact absurd hle (not_le_of_gt
      (value_square_lt hside hpadding objective hshape'.holds (hshape'.lt_of_square hless)))
  have hsizes : List.replicate (k * k) size ≠ [] :=
    List.length_pos_iff.1 (by rwa [List.length_replicate])
  rw [pack_eq_packing padding objective hsizes, sortedItems_replicate, hpack, hlast, hsquare]
  rfl

theorem pack_squares_nine : 0 < 3 ∧ (0 : ℚ) < 1 / 2 ∧ (0 : ℚ) < 1 / 4 ∧
    pack (List.replicate 9 ⟨1 / 2, 1 / 2⟩) (1 / 4) .minArea =
      ({ positions := [⟨1 / 4, 1 / 4⟩, ⟨1, 1 / 4⟩, ⟨7 / 4, 1 / 4⟩, ⟨1 / 4, 1⟩, ⟨1, 1⟩, ⟨7 / 4, 1⟩,
          ⟨1 / 4, 7 / 4⟩, ⟨1, 7 / 4⟩, ⟨7 / 4, 7 / 4⟩]
         size := ⟨5 / 2, 5 / 2⟩
         rows := 3
         columns := 3 } : Packing ℚ) := by
  have hk : 0 < 3 := by decide
  have hside : (0 : ℚ) < 1 / 2 := by norm_num
  have hpadding : (0 : ℚ) < 1 / 4 := by norm_num
  refine ⟨hk, hside, hpadding, (pack_squares hk hside hpadding .minArea).trans ?_⟩
  norm_num [List.range_succ]

end RefAtlas.Layout
