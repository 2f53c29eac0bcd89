import Mathlib.Data.List.Nodup
import RefAtlas.Layout.Packing

/-! # Where a packing puts its items

Whatever the coordinates compute, every item of the input is in one cell of the chosen grid, and the
packing gives it the corner of that cell.

* `getElem?_byIndex`: what is sorted by its numbers is found under them.
* `Grid.cell?`: the item in a cell; `Grid.mem_corners_iff`: the corners in terms of the cells.
* `exists_bestGrid_eq`: the chosen grid is one of those to choose from.
* `Grid.packing`, `getElem?_positions_packing`: the positions in terms of the cells of a grid.
* `exists_grid_pack`: what that says of the chosen grid.
-/

namespace RefAtlas.Layout
open RefAtlas.Number
set_option autoImplicit false

/-! ## In the order of numbers -/

section ByIndex
variable {β : Type} {l : List (Nat × β)} {n : Nat}

theorem map_fst_byIndex (h : (l.map Prod.fst).Perm (List.range n)) :
    (l.mergeSort fun a b => a.1 ≤ b.1).map Prod.fst = List.range n := by
  have hperm : ((l.mergeSort fun a b => a.1 ≤ b.1).map Prod.fst).Perm (List.range n) :=
    ((List.mergeSort_perm l _).map Prod.fst).trans h
  have hsorted : (l.mergeSort fun a b => a.1 ≤ b.1).Pairwise fun a b => decide (a.1 ≤ b.1) = true :=
    List.pairwise_mergeSort (by simpa using fun a _ b _ c _ => Nat.le_trans)
      (by simpa using fun a _ b _ => Nat.le_total a b) l
  have hkeys : ((l.mergeSort fun a b => a.1 ≤ b.1).map Prod.fst).Pairwise (· ≤ ·) :=
    List.pairwise_map.2 (hsorted.imp of_decide_eq_true)
  exact List.Perm.eq_of_pairwise (fun a b _ _ => Nat.le_antisymm) hkeys List.pairwise_le_range hperm

/-- Values whose numbers are `0`, …, `n - 1` in any order are found under their numbers. -/
theorem getElem?_byIndex (h : (l.map Prod.fst).Perm (List.range n)) {i : Nat} {b : β} :
    ((l.mergeSort fun a b => a.1 ≤ b.1).map Prod.snd)[i]? = some b ↔ (i, b) ∈ l := by
  have hkeys := map_fst_byIndex h
  have hkey : ∀ (j : Nat) (e : Nat × β), (l.mergeSort fun a b => a.1 ≤ b.1)[j]? = some e → e.1 = j := by
    intro j e he
    have hj : (List.range n)[j]? = some e.1 := by
      rw [← hkeys, List.getElem?_map, he]
      rfl
    exact (List.getElem?_eq_some_iff.1 hj).2.symm.trans (List.getElem_range _)
  rw [List.getElem?_map, Option.map_eq_some_iff]
  constructor
  · rintro ⟨e, he, rfl⟩
    have hmem : e ∈ l := List.mem_mergeSort.1 (List.mem_of_getElem? he)
    rw [← hkey i e he]
    exact hmem
  · intro hmem
    obtain ⟨j, hj⟩ := List.getElem?_of_mem (List.mem_mergeSort.2 hmem)
    obtain rfl : i = j := hkey j (i, b) hj
    exact ⟨(i, b), hj, rfl⟩

theorem mem_zip_iff_getElem? {γ : Type} {as : List β} {bs : List γ} {a : β} {b : γ} :
    (a, b) ∈ as.zip bs ↔ ∃ i : Nat, as[i]? = some a ∧ bs[i]? = some b := by
  rw [List.mem_iff_getElem?]
  simp only [List.getElem?_zip_eq_some]

theorem pairwise_of_getElem? {R : β → β → Prop} {l : List β}
    (h : ∀ (i j : Nat) (a b : β), i < j → l[i]? = some a → l[j]? = some b → R a b) :
    l.Pairwise R := by
  rw [List.pairwise_iff_getElem]
  intro i j hi hj hij
  exact h i j _ _ hij (List.getElem?_eq_getElem hi) (List.getElem?_eq_getElem hj)

end ByIndex

variable {α : Type} [Scalar α]

/-! ## The shape of a grid -/

omit [Scalar α] in
theorem ceilDiv_pos {n k : Nat} (hn : 0 < n) (hk : 0 < k) : 0 < ceilDiv n k := by
  unfold ceilDiv
  by_cases hmod : n % k = 0
  · have hle : k ≤ n := Nat.le_of_dvd hn (Nat.dvd_of_mod_eq_zero hmod)
    exact Nat.add_pos_left (Nat.div_pos hle hk) _
  · rw [if_neg (by simpa using hmod)]
    exact Nat.succ_pos _

theorem length_widen {row : List (Item α)} {widths : List α} (h : row.length ≤ widths.length) :
    (widen widths row).length = widths.length := by
  induction row generalizing widths with
  | nil => cases widths <;> rfl
  | cons item row ih =>
    cases widths with
    | nil => exact absurd h (Nat.not_succ_le_zero _)
    | cons w ws =>
      rw [widen, List.length_cons, List.length_cons, ih (Nat.le_of_succ_le_succ h)]

theorem length_foldl_widen {rows : List (List (Item α))} {widths : List α}
    (h : ∀ row ∈ rows, row.length ≤ widths.length) :
    (rows.foldl widen widths).length = widths.length := by
  induction rows generalizing widths with
  | nil => rfl
  | cons row rows ih =>
    have hrow := length_widen (h row List.mem_cons_self)
    rw [List.foldl_cons, ih, hrow]
    intro other hother
    rw [hrow]
    exact h other (List.mem_cons_of_mem _ hother)

theorem length_offsets (padding cursor : α) (extents : List α) :
    (offsets padding cursor extents).length = extents.length := by
  induction extents generalizing cursor with
  | nil => rfl
  | cons extent rest ih => rw [offsets, List.length_cons, List.length_cons, ih]

namespace Grid

def cell? (g : Grid α) (r c : Nat) : Option (Item α) := g.rows[r]?.bind (·[c]?)

omit [Scalar α] in
theorem cell?_eq_some_iff {g : Grid α} {r c : Nat} {item : Item α} :
    g.cell? r c = some item ↔ ∃ row, g.rows[r]? = some row ∧ row[c]? = some item :=
  Option.bind_eq_some_iff

/-- Rows that are not longer than there are columns, with a track for each row and column. -/
structure Shaped (g : Grid α) : Prop where
  fits : ∀ row ∈ g.rows, row.length ≤ g.columns
  widths : g.columnWidths.length = g.columns
  heights : g.rowHeights.length = g.rows.length

theorem shaped_ofRows {columns : Nat} {rows : List (List (Item α))}
    (h : ∀ row ∈ rows, row.length ≤ columns) : (ofRows columns rows).Shaped where
  fits := h
  widths := by
    have hlength : (List.replicate columns (Scalar.zero : α)).length = columns :=
      List.length_replicate
    rw [ofRows, length_foldl_widen, hlength]
    rw [hlength]
    exact h
  heights := List.length_map _

theorem mem_corners_iff {g : Grid α} {padding : α} {i : Nat} {p : Point α} :
    (i, p) ∈ g.corners padding ↔ ∃ r c item, g.cell? r c = some item ∧ item.index = i ∧
      (offsets padding padding g.columnWidths)[c]? = some p.x ∧
      (offsets padding padding g.rowHeights)[r]? = some p.y := by
  simp only [corners, List.mem_flatMap, List.mem_map, Prod.exists, mem_zip_iff_getElem?,
    Prod.mk.injEq, cell?_eq_some_iff]
  constructor
  · rintro ⟨row, y, ⟨r, hrow, hy⟩, item, x, ⟨c, hitem, hx⟩, rfl, rfl⟩
    exact ⟨r, c, item, ⟨row, hrow, hitem⟩, rfl, hx, hy⟩
  · rintro ⟨r, c, item, ⟨row, hrow, hitem⟩, rfl, hx, hy⟩
    exact ⟨row, p.y, ⟨r, hrow, hy⟩, item, p.x, ⟨c, hitem, hx⟩, rfl, rfl⟩

/-- No item is lost: there are as many offsets as rows, and no fewer than cells in a row. -/
theorem Shaped.map_fst_corners {g : Grid α} (h : g.Shaped) (padding : α) :
    (g.corners padding).map Prod.fst = g.rows.flatten.map Item.index := by
  have hrow : ∀ e ∈ g.rows.zip (offsets padding padding g.rowHeights),
      (((e.1.zip (offsets padding padding g.columnWidths)).map fun ix =>
        (ix.1.index, (⟨ix.2, e.2⟩ : Point α))).map Prod.fst) = e.1.map Item.index := by
    intro e he
    have hlength : e.1.length ≤ (offsets padding padding g.columnWidths).length := by
      rw [length_offsets, h.widths]
      exact h.fits e.1 (List.of_mem_zip he).1
    have hitems := List.map_fst_zip hlength
    rw [List.map_map, ← congrArg (List.map Item.index) hitems, List.map_map]
    rfl
  have hrows : (g.rows.zip (offsets padding padding g.rowHeights)).map Prod.fst = g.rows :=
    List.map_fst_zip (Nat.le_of_eq (by rw [length_offsets, h.heights]))
  rw [corners, List.map_flatMap, List.flatMap_congr hrow, ← List.flatMap_map Prod.fst, hrows,
    List.map_flatten, List.flatMap_def]

end Grid

/-! ## The grids to choose from -/

theorem shaped_gridOf (items : List (Item α)) (k : Nat) : (gridOf items k).Shaped :=
  Grid.shaped_ofRows fun _ => length_le_of_mem_chunks

theorem flatten_rows_gridOf {items : List (Item α)} {k : Nat} (hk : 0 < k) :
    (gridOf items k).rows.flatten = items := by
  cases items with
  | nil =>
    have hrows : (gridOf ([] : List (Item α)) k).rows = chunks (ceilDiv 0 k) [] := rfl
    rw [hrows, chunks_nil, List.flatten_nil]
  | cons item rest =>
    exact flatten_chunks (Nat.ne_of_gt (ceilDiv_pos (Nat.succ_pos rest.length) hk)) _

theorem foldl_betterGrid_mem (padding : α) (objective : Objective) (grids : List (Grid α))
    (best : Grid α) : grids.foldl (betterGrid padding objective) best ∈ best :: grids := by
  induction grids generalizing best with
  | nil => exact List.mem_singleton_self best
  | cons other rest ih =>
    rw [List.foldl_cons]
    have hstep : betterGrid padding objective best other = other ∨
        betterGrid padding objective best other = best := by
      unfold betterGrid
      split
      · exact .inl rfl
      · exact .inr rfl
    rcases List.mem_cons.1 (ih (betterGrid padding objective best other)) with hfirst | hrest
    · rw [hfirst]
      rcases hstep with hother | hbest
      · rw [hother]
        exact List.mem_cons_of_mem _ List.mem_cons_self
      · rw [hbest]
        exact List.mem_cons_self
    · exact List.mem_cons_of_mem _ (List.mem_cons_of_mem _ hrest)

/-- The chosen grid has a number of rows between one and the root of the number of items. -/
theorem exists_bestGrid_eq (items : List (Item α)) (padding : α) (objective : Objective) :
    ∃ k, 0 < k ∧ k ≤ max 1 (ceilSqrt items.length) ∧
      bestGrid items padding objective = gridOf items k := by
  have hmem := foldl_betterGrid_mem padding objective
    ((List.range' 2 (ceilSqrt items.length - 1)).map (gridOf items)) (gridOf items 1)
  rcases List.mem_cons.1 hmem with hone | hmore
  · exact ⟨1, Nat.one_pos, Nat.le_max_left _ _, hone⟩
  · obtain ⟨k, hk, hgrid⟩ := List.mem_map.1 hmore
    have hrange := List.mem_range'_1.1 hk
    exact ⟨k, by omega, by omega, hgrid.symm⟩

/-! ## The positions -/

theorem sortedItems_perm (sizes : List (Size α)) :
    (sortedItems sizes).Perm (sizes.zipIdx.map fun s => Item.mk s.2 s.1) :=
  List.mergeSort_perm _ _

theorem mem_sortedItems {sizes : List (Size α)} {item : Item α} :
    item ∈ sortedItems sizes ↔ sizes[item.index]? = some item.size := by
  rw [(sortedItems_perm sizes).mem_iff, List.mem_map]
  constructor
  · rintro ⟨s, hs, rfl⟩
    exact List.mem_zipIdx_iff_getElem?.1 hs
  · intro hsize
    exact ⟨(item.size, item.index), List.mem_zipIdx_iff_getElem?.2 hsize, rfl⟩

theorem map_index_sortedItems (sizes : List (Size α)) :
    ((sortedItems sizes).map Item.index).Perm (List.range sizes.length) := by
  refine ((sortedItems_perm sizes).map Item.index).trans (List.Perm.of_eq ?_)
  rw [List.map_map, List.range_eq_range']
  exact List.zipIdx_map_snd 0 sizes

theorem mem_of_cell? {items : List (Item α)} {k r c : Nat} {item : Item α} (hk : 0 < k)
    (h : (gridOf items k).cell? r c = some item) : item ∈ items := by
  obtain ⟨row, hrow, hitem⟩ := Grid.cell?_eq_some_iff.1 h
  have hflat : item ∈ (gridOf items k).rows.flatten :=
    List.mem_flatten.2 ⟨row, List.mem_of_getElem? hrow, List.mem_of_getElem? hitem⟩
  rwa [flatten_rows_gridOf hk] at hflat

def Grid.packing (g : Grid α) (padding : α) : Packing α where
  positions := ((g.corners padding).mergeSort fun a b => a.1 ≤ b.1).map Prod.snd
  size := g.size padding
  rows := g.rows.length
  columns := g.columns

section Numbered
variable {items : List (Item α)} {n k : Nat} (padding : α)

theorem map_fst_corners_perm (hnumbers : (items.map Item.index).Perm (List.range n)) (hk : 0 < k) :
    (((gridOf items k).corners padding).map Prod.fst).Perm (List.range n) := by
  rw [(shaped_gridOf _ k).map_fst_corners, flatten_rows_gridOf hk]
  exact hnumbers

theorem length_positions_packing (hnumbers : (items.map Item.index).Perm (List.range n))
    (hk : 0 < k) : ((gridOf items k).packing padding).positions.length = n := by
  have hsame := congrArg List.length
    (map_fst_byIndex (map_fst_corners_perm padding hnumbers hk))
  rw [List.length_map, List.length_range] at hsame
  exact (List.length_map _).trans hsame

theorem getElem?_positions_packing (hnumbers : (items.map Item.index).Perm (List.range n))
    (hk : 0 < k) {i : Nat} {p : Point α} :
    ((gridOf items k).packing padding).positions[i]? = some p ↔
      ∃ r c item, (gridOf items k).cell? r c = some item ∧ item.index = i ∧
        (offsets padding padding (gridOf items k).columnWidths)[c]? = some p.x ∧
        (offsets padding padding (gridOf items k).rowHeights)[r]? = some p.y := by
  rw [← Grid.mem_corners_iff]
  exact getElem?_byIndex (map_fst_corners_perm padding hnumbers hk)

end Numbered

section Pack
variable {sizes : List (Size α)} (padding : α) (objective : Objective)

theorem pack_eq_packing (h : sizes ≠ []) :
    pack sizes padding objective =
      (bestGrid (sortedItems sizes) padding objective).packing padding := by
  rw [pack, if_neg (by simpa using h)]
  rfl

theorem length_sortedItems (sizes : List (Size α)) : (sortedItems sizes).length = sizes.length := by
  rw [(sortedItems_perm sizes).length_eq, List.length_map, List.length_zipIdx]

/-- A packing of at least one item comes of a grid in which every item has a cell, and gives it the
corner of that cell. -/
theorem exists_grid_pack (h : sizes ≠ []) :
    ∃ k, 0 < k ∧ k ≤ max 1 (ceilSqrt sizes.length) ∧
      (pack sizes padding objective).size = (gridOf (sortedItems sizes) k).size padding ∧
      (pack sizes padding objective).positions.length = sizes.length ∧
      ∀ i p, (pack sizes padding objective).positions[i]? = some p ↔
        ∃ r c item, (gridOf (sortedItems sizes) k).cell? r c = some item ∧ item.index = i ∧
          (offsets padding padding (gridOf (sortedItems sizes) k).columnWidths)[c]? = some p.x ∧
          (offsets padding padding (gridOf (sortedItems sizes) k).rowHeights)[r]? = some p.y := by
  obtain ⟨k, hk, hle, hbest⟩ := exists_bestGrid_eq (sortedItems sizes) padding objective
  have hnumbers := map_index_sortedItems sizes
  rw [pack_eq_packing padding objective h, hbest]
  exact ⟨k, hk, length_sortedItems sizes ▸ hle, rfl, length_positions_packing padding hnumbers hk,
    fun _ _ => getElem?_positions_packing padding hnumbers hk⟩

theorem length_positions_pack (sizes : List (Size α)) :
    (pack sizes padding objective).positions.length = sizes.length := by
  by_cases h : sizes = []
  · rw [h]
    rfl
  · obtain ⟨k, -, -, -, hlength, -⟩ := exists_grid_pack padding objective h
    exact hlength

end Pack

end RefAtlas.Layout
