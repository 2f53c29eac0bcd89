import Mathlib.Order.Bounds.Basic
import RefAtlas.Proofs.Layout.Packing.Separation
import RefAtlas.Proofs.Layout.Packing.Slots

/-! # The extents of rows and columns

Over exact coordinates a column is as wide as its widest item and a row as high as its highest one,
since no row and no column is empty. So the box of a packing fits tightly.

* `columnItems`, `rowItems`, `Extents`: the extents of the tracks in terms of the slots.
* `trackStart`, `getElem?_offsets`: where a track starts.
* `extents_gridOf`: the tracks of the grids that are tried.
* `Bounds`: the bounding box of rectangles.
* `pack_tight`: the items of a packing are apart, and its box has the padding around them.
-/

namespace RefAtlas.Layout
open RefAtlas.Number
set_option autoImplicit false

/-! ## Widest and highest items -/

section Items
variable {α : Type}

def columnItems (items : List (Item α)) (columns column : ℕ) : Set (Item α) :=
  {item | ∃ slot, items[slot]? = some item ∧ slot % columns = column}

def rowItems (items : List (Item α)) (columns row : ℕ) : Set (Item α) :=
  {item | ∃ slot, items[slot]? = some item ∧ slot / columns = row}

end Items

/-- Each column is as wide as its widest item, and each row as high as its highest one. -/
structure Extents (items : List (Item ℚ)) (rows columns : ℕ) (widths heights : List ℚ) : Prop where
  length_widths : widths.length = columns
  length_heights : heights.length = rows
  widest : ∀ column w, widths[column]? = some w →
    IsGreatest ((fun item => item.size.width) '' columnItems items columns column) w
  highest : ∀ row h, heights[row]? = some h →
    IsGreatest ((fun item => item.size.height) '' rowItems items columns row) h

theorem rowHeight_eq_or (row : List (Item ℚ)) (least : ℚ) :
    row.foldl (fun h item => Scalar.max h item.size.height) least = least ∨
      ∃ item ∈ row, item.size.height =
        row.foldl (fun h item => Scalar.max h item.size.height) least := by
  induction row generalizing least with
  | nil => exact .inl rfl
  | cons first rest ih =>
    rw [List.foldl_cons, Scalar.max_rat]
    rcases ih (max least first.size.height) with hstart | ⟨item, hitem, hheight⟩
    · rw [hstart]
      rcases max_choice least first.size.height with hmax | hmax
      · exact .inl hmax
      · exact .inr ⟨first, List.mem_cons_self, hmax.symm⟩
    · exact .inr ⟨item, List.mem_cons_of_mem _ hitem, hheight⟩

theorem widen_eq_or (row : List (Item ℚ)) {widths : List ℚ} {c : ℕ} {w : ℚ}
    (h : (widen widths row)[c]? = some w) :
    widths[c]? = some w ∨ ∃ item, row[c]? = some item ∧ item.size.width = w := by
  induction row generalizing widths c with
  | nil =>
    have hsame : widen widths [] = widths := by cases widths <;> rfl
    rw [hsame] at h
    exact .inl h
  | cons first rest ih =>
    cases widths with
    | nil => cases h
    | cons v ws =>
      cases c with
      | zero =>
        have hmax : Scalar.max v first.size.width = w := Option.some.inj h
        rw [Scalar.max_rat] at hmax
        rcases max_choice v first.size.width with hv | hfirst
        · exact .inl (congrArg some (hv.symm.trans hmax))
        · exact .inr ⟨first, rfl, hfirst.symm.trans hmax⟩
      | succ c =>
        have hrest : (widen ws rest)[c]? = some w := h
        exact ih hrest

theorem foldl_widen_eq_or (rows : List (List (Item ℚ))) {widths : List ℚ} {c : ℕ} {w : ℚ}
    (h : (rows.foldl widen widths)[c]? = some w) :
    widths[c]? = some w ∨ ∃ row ∈ rows, ∃ item, row[c]? = some item ∧ item.size.width = w := by
  induction rows generalizing widths with
  | nil => exact .inl h
  | cons first rest ih =>
    rcases ih h with hwiden | ⟨row, hrow, hitem⟩
    · rcases widen_eq_or first hwiden with hold | hitem
      · exact .inl hold
      · exact .inr ⟨first, List.mem_cons_self, hitem⟩
    · exact .inr ⟨row, List.mem_cons_of_mem _ hrow, hitem⟩

theorem columnWidth_eq_or {columns : ℕ} {rows : List (List (Item ℚ))} {c : ℕ} {w : ℚ}
    (h : (Grid.ofRows columns rows).columnWidths[c]? = some w) (hc : c < columns) :
    w = 0 ∨ ∃ row ∈ rows, ∃ item, row[c]? = some item ∧ item.size.width = w := by
  rcases foldl_widen_eq_or rows h with hstart | hitem
  · rw [List.getElem?_replicate, if_pos hc, Scalar.zero_rat] at hstart
    exact .inl (Option.some.inj hstart).symm
  · exact .inr hitem

theorem isGreatest_of_eq_or {s : Set ℚ} {m : ℚ} (hne : s.Nonempty) (hnonneg : ∀ x ∈ s, 0 ≤ x)
    (hle : ∀ x ∈ s, x ≤ m) (hmem : m = 0 ∨ m ∈ s) : IsGreatest s m := by
  refine ⟨?_, hle⟩
  rcases hmem with rfl | hmem
  · obtain ⟨x, hx⟩ := hne
    rwa [← le_antisymm (hle x hx) (hnonneg x hx)]
  · exact hmem

section Grid
variable {items : List (Item ℚ)} {r : ℕ}

theorem mem_columnItems_iff (hne : items ≠ []) (hr : 0 < r) (hle : r ≤ ceilSqrt items.length)
    {column : ℕ} (hcolumn : column < (gridOf items r).columns) {item : Item ℚ} :
    item ∈ columnItems items (gridOf items r).columns column ↔
      ∃ row, (gridOf items r).cell? row column = some item := by
  have hslotted := slotted_gridOf hne hr hle
  constructor
  · rintro ⟨slot, hitem, rfl⟩
    exact ⟨_, (hslotted.cell slot (List.getElem?_eq_some_iff.1 hitem).1).trans hitem⟩
  · rintro ⟨row, hcell⟩
    rw [cell?_gridOf items hcolumn] at hcell
    refine ⟨_, hcell, ?_⟩
    rw [Nat.add_comm, Nat.add_mul_mod_self_right, Nat.mod_eq_of_lt hcolumn]

theorem mem_rowItems_iff (hne : items ≠ []) (hr : 0 < r) (hle : r ≤ ceilSqrt items.length)
    {row : ℕ} {item : Item ℚ} :
    item ∈ rowItems items (gridOf items r).columns row ↔
      ∃ column, (gridOf items r).cell? row column = some item := by
  have hslotted := slotted_gridOf hne hr hle
  constructor
  · rintro ⟨slot, hitem, rfl⟩
    exact ⟨_, (hslotted.cell slot (List.getElem?_eq_some_iff.1 hitem).1).trans hitem⟩
  · rintro ⟨column, hcell⟩
    obtain ⟨line, hline, hitem⟩ := Grid.cell?_eq_some_iff.1 hcell
    have hcolumn : column < (gridOf items r).columns :=
      (List.getElem?_eq_some_iff.1 hitem).1.trans_le
        ((shaped_gridOf items r).fits line (List.mem_of_getElem? hline))
    rw [cell?_gridOf items hcolumn] at hcell
    refine ⟨_, hcell, ?_⟩
    rw [Nat.add_comm, Nat.add_mul_div_right _ _ (Nat.zero_lt_of_lt hcolumn),
      Nat.div_eq_of_lt hcolumn, Nat.zero_add]

theorem isGreatest_columnWidth (hne : items ≠ []) (hr : 0 < r) (hle : r ≤ ceilSqrt items.length)
    (hwidths : ∀ item ∈ items, 0 ≤ item.size.width) {column : ℕ} {w : ℚ}
    (hw : (gridOf items r).columnWidths[column]? = some w) :
    IsGreatest ((fun item => item.size.width) ''
      columnItems items (gridOf items r).columns column) w := by
  have hslotted := slotted_gridOf hne hr hle
  have hcolumn : column < (gridOf items r).columns :=
    hslotted.widths ▸ (List.getElem?_eq_some_iff.1 hw).1
  obtain ⟨w', hw', -, hwide⟩ := exists_columnWidth (gridOf items r).rows hcolumn
  obtain rfl : w = w' := Option.some.inj (hw.symm.trans hw')
  refine isGreatest_of_eq_or ?_ ?_ ?_ ?_
  · obtain ⟨slot, hslot, hmod⟩ := hslotted.every_column column hcolumn
    exact ⟨_, items[slot], ⟨slot, List.getElem?_eq_getElem hslot, hmod⟩, rfl⟩
  · rintro x ⟨item, ⟨slot, hitem, -⟩, rfl⟩
    exact hwidths item (List.mem_of_getElem? hitem)
  · rintro x ⟨item, hitem, rfl⟩
    obtain ⟨row, hcell⟩ := (mem_columnItems_iff hne hr hle hcolumn).1 hitem
    obtain ⟨line, hline, hmem⟩ := Grid.cell?_eq_some_iff.1 hcell
    exact hwide line (List.mem_of_getElem? hline) item hmem
  · rcases columnWidth_eq_or hw' hcolumn with hzero | ⟨line, hline, item, hitem, hwidth⟩
    · exact .inl hzero
    · obtain ⟨row, hrow⟩ := List.getElem?_of_mem hline
      have hcell := Grid.cell?_eq_some_iff.2 ⟨line, hrow, hitem⟩
      exact .inr ⟨item, (mem_columnItems_iff hne hr hle hcolumn).2 ⟨row, hcell⟩, hwidth⟩

theorem isGreatest_rowHeight (hne : items ≠ []) (hr : 0 < r) (hle : r ≤ ceilSqrt items.length)
    (hheights : ∀ item ∈ items, 0 ≤ item.size.height) {row : ℕ} {h : ℚ}
    (hh : (gridOf items r).rowHeights[row]? = some h) :
    IsGreatest ((fun item => item.size.height) ''
      rowItems items (gridOf items r).columns row) h := by
  have hslotted := slotted_gridOf hne hr hle
  obtain ⟨line, hline, rfl⟩ : ∃ line, (gridOf items r).rows[row]? = some line ∧
      rowHeight line = h := by
    rw [gridOf, Grid.ofRows, List.getElem?_map] at hh
    exact Option.map_eq_some_iff.1 hh
  have hmem : ∀ item, item ∈ line ↔ item ∈ rowItems items (gridOf items r).columns row := by
    intro item
    simp only [mem_rowItems_iff hne hr hle, Grid.cell?, hline, Option.bind_some]
    exact List.mem_iff_getElem?
  refine isGreatest_of_eq_or ?_ ?_ ?_ ?_
  · obtain ⟨slot, hslot, hdiv⟩ := hslotted.every_row row (List.getElem?_eq_some_iff.1 hline).1
    exact ⟨_, items[slot], ⟨slot, List.getElem?_eq_getElem hslot, hdiv⟩, rfl⟩
  · rintro x ⟨item, ⟨slot, hitem, -⟩, rfl⟩
    exact hheights item (List.mem_of_getElem? hitem)
  · rintro x ⟨item, hitem, rfl⟩
    exact (le_foldl_height line Scalar.zero).2 item ((hmem item).2 hitem)
  · rcases rowHeight_eq_or line Scalar.zero with hzero | ⟨item, hitem, hheight⟩
    · exact .inl (hzero.trans Scalar.zero_rat)
    · exact .inr ⟨item, (hmem item).1 hitem, hheight⟩

theorem extents_gridOf (hne : items ≠ []) (hr : 0 < r) (hle : r ≤ ceilSqrt items.length)
    (hsides : ∀ item ∈ items, 0 ≤ item.size.width ∧ 0 ≤ item.size.height) :
    Extents items (gridOf items r).rows.length (gridOf items r).columns
      (gridOf items r).columnWidths (gridOf items r).rowHeights where
  length_widths := (slotted_gridOf hne hr hle).widths
  length_heights := (slotted_gridOf hne hr hle).heights
  widest _ _ := isGreatest_columnWidth hne hr hle fun item hitem => (hsides item hitem).1
  highest _ _ := isGreatest_rowHeight hne hr hle fun item hitem => (hsides item hitem).2

end Grid

/-! ## Where tracks start -/

/-- The start of a track: behind the extents before it, and a padding before each track up to it. -/
def trackStart (padding : ℚ) (extents : List ℚ) (c : ℕ) : ℚ :=
  (extents.take c).sum + padding * (c + 1)

section Starts
variable {padding : ℚ} {extents : List ℚ} {c : ℕ}

theorem trackStart_succ {e : ℚ} (h : extents[c]? = some e) :
    trackStart padding extents (c + 1) = trackStart padding extents c + e + padding := by
  obtain ⟨hc, rfl⟩ := List.getElem?_eq_some_iff.1 h
  rw [trackStart, trackStart, List.sum_take_succ _ _ hc, Nat.cast_succ]
  ring

theorem trackStart_zero (padding : ℚ) (extents : List ℚ) : trackStart padding extents 0 = padding := by
  simp [trackStart]

theorem trackStart_last {e : ℚ} (h : extents[c]? = some e) (hlast : c + 1 = extents.length) :
    trackStart padding extents c + e = extents.sum + padding * (extents.length + 1) - padding := by
  have hnext : trackStart padding extents (c + 1) = trackStart padding extents c + e + padding :=
    trackStart_succ h
  rw [hlast, trackStart, List.take_length] at hnext
  linarith

theorem trackStart_length (padding : ℚ) (extents : List ℚ) :
    trackStart padding extents extents.length = tracksExtent extents padding := by
  rw [trackStart, List.take_length, tracksExtent_eq]
  ring

theorem getElem?_offsets (cursor : ℚ) (hc : c < extents.length) :
    (offsets padding cursor extents)[c]? =
      some (cursor + ((extents.take c).sum + padding * c)) := by
  induction extents generalizing cursor c with
  | nil => exact absurd hc (Nat.not_lt_zero c)
  | cons extent rest ih =>
    cases c with
    | zero => simp [offsets]
    | succ c =>
      have hrest := ih (cursor + (extent + padding)) (Nat.lt_of_succ_lt_succ hc)
      rw [offsets, List.getElem?_cons_succ, hrest, List.take_succ_cons, List.sum_cons,
        Nat.cast_succ]
      congr 1
      ring

theorem getElem?_offsets_eq_trackStart (hc : c < extents.length) :
    (offsets padding padding extents)[c]? = some (trackStart padding extents c) := by
  rw [getElem?_offsets padding hc, trackStart]
  congr 1
  ring

end Starts

/-! ## Arrangements row by row -/

/-- A packing in which the items stand in their slots, between tracks of the given extents. -/
structure Arranged (items : List (Item ℚ)) (padding : ℚ) (packing : Packing ℚ)
    (widths heights : List ℚ) : Prop where
  extents : Extents items packing.rows packing.columns widths heights
  width : packing.size.width = widths.sum + padding * (packing.columns + 1)
  height : packing.size.height = heights.sum + padding * (packing.rows + 1)
  length_positions : packing.positions.length = items.length
  corner : ∀ (slot : ℕ) (item : Item ℚ), items[slot]? = some item →
    packing.positions[item.index]? = some ⟨trackStart padding widths (slot % packing.columns),
      trackStart padding heights (slot / packing.columns)⟩

theorem arranged_packing {items : List (Item ℚ)} {r : ℕ} (padding : ℚ)
    (hnumbers : (items.map Item.index).Perm (List.range items.length)) (hne : items ≠ [])
    (hr : 0 < r) (hle : r ≤ ceilSqrt items.length)
    (hsides : ∀ item ∈ items, 0 ≤ item.size.width ∧ 0 ≤ item.size.height) :
    Arranged items padding ((gridOf items r).packing padding) (gridOf items r).columnWidths
      (gridOf items r).rowHeights := by
  have hslotted := slotted_gridOf hne hr hle
  refine ⟨extents_gridOf hne hr hle hsides, ?_, ?_, length_positions_packing padding hnumbers hr,
    fun slot item hitem => ?_⟩
  · change tracksExtent _ padding = _
    rw [← trackStart_length, trackStart, List.take_length, hslotted.widths]
    rfl
  · change tracksExtent _ padding = _
    rw [← trackStart_length, trackStart, List.take_length, hslotted.heights]
    rfl
  · have hslot : slot < items.length := (List.getElem?_eq_some_iff.1 hitem).1
    obtain ⟨x, y, hx, hy, hcorner⟩ := exists_corner_slot padding hnumbers hr hslotted hitem
    rw [getElem?_offsets_eq_trackStart (hslotted.in_columns slot hslot)] at hx
    rw [getElem?_offsets_eq_trackStart (hslotted.in_rows slot hslot)] at hy
    cases hx
    cases hy
    exact hcorner

/-! ## The box -/

def Packing.rects {α : Type} (packing : Packing α) (sizes : List (Size α)) : List (Rect α) :=
  List.zipWith Rect.ofCorner packing.positions sizes

theorem Packing.getElem?_rects {α : Type} {packing : Packing α} {sizes : List (Size α)} {i : ℕ}
    {rect : Rect α} : (packing.rects sizes)[i]? = some rect ↔
      ∃ corner size, packing.positions[i]? = some corner ∧ sizes[i]? = some size ∧
        Rect.ofCorner corner size = rect :=
  List.getElem?_zipWith_eq_some

/-- The sides of the least box around some rectangles. -/
structure Bounds (rects : List (Rect ℚ)) (left top right bottom : ℚ) : Prop where
  left : IsLeast (Rect.x '' {rect | rect ∈ rects}) left
  top : IsLeast (Rect.y '' {rect | rect ∈ rects}) top
  right : IsGreatest (Rect.right '' {rect | rect ∈ rects}) right
  bottom : IsGreatest (Rect.bottom '' {rect | rect ∈ rects}) bottom

section Tight
variable {sizes : List (Size ℚ)} {padding : ℚ} {objective : Objective} {widths heights : List ℚ}

theorem Arranged.mem_rects {packing : Packing ℚ}
    (h : Arranged (sortedItems sizes) padding packing widths heights) {slot : ℕ} {item : Item ℚ}
    (hitem : (sortedItems sizes)[slot]? = some item) :
    Rect.ofCorner ⟨trackStart padding widths (slot % packing.columns),
      trackStart padding heights (slot / packing.columns)⟩ item.size ∈ packing.rects sizes :=
  List.mem_of_getElem? (Packing.getElem?_rects.2 ⟨_, _, h.corner slot item hitem,
    mem_sortedItems.1 (List.mem_of_getElem? hitem), rfl⟩)

theorem pack_apart_rects (objective : Objective) (hpadding : 0 ≤ padding) :
    ((pack sizes padding objective).rects sizes).Pairwise (Rect.Apart padding) := by
  refine pairwise_of_getElem? fun i j a b hij ha hb => ?_
  obtain ⟨corner, size, hcorner, hsize, rfl⟩ := Packing.getElem?_rects.1 ha
  obtain ⟨corner', size', hcorner', hsize', rfl⟩ := Packing.getElem?_rects.1 hb
  exact pack_apart objective hpadding (Nat.ne_of_lt hij) hsize hcorner hsize' hcorner'

theorem pack_encloses_rects (objective : Objective) (hpadding : 0 ≤ padding) :
    ∀ rect ∈ (pack sizes padding objective).rects sizes,
      Rect.Encloses padding (.ofCorner .zero (pack sizes padding objective).size) rect := by
  intro rect hrect
  obtain ⟨i, hi⟩ := List.getElem?_of_mem hrect
  obtain ⟨corner, size, hcorner, hsize, rfl⟩ := Packing.getElem?_rects.1 hi
  exact pack_encloses objective hpadding hsize hcorner

section Arranged
variable {packing : Packing ℚ} (h : Arranged (sortedItems sizes) padding packing widths heights)
include h

theorem Arranged.exists_corner (hne : sizes ≠ []) :
    ∃ rect ∈ packing.rects sizes, rect.x = padding ∧ rect.y = padding := by
  have hfirst := List.length_pos_iff.2 (sortedItems_ne_nil hne)
  refine ⟨_, h.mem_rects (List.getElem?_eq_getElem hfirst), ?_, ?_⟩
  · change trackStart padding widths (0 % packing.columns) = padding
    rw [Nat.zero_mod, trackStart_zero]
  · change trackStart padding heights (0 / packing.columns) = padding
    rw [Nat.zero_div, trackStart_zero]

theorem Arranged.exists_right (hcolumns : 0 < packing.columns) :
    ∃ rect ∈ packing.rects sizes, rect.right = packing.size.width - padding := by
  have hlength := h.extents.length_widths
  have hlast : packing.columns - 1 < widths.length := by omega
  have hw := List.getElem?_eq_getElem hlast
  obtain ⟨item, ⟨slot, hitem, hslot⟩, hwide⟩ := (h.extents.widest _ _ hw).1
  have hwidth : item.size.width = widths[packing.columns - 1] := hwide
  refine ⟨_, h.mem_rects hitem, ?_⟩
  change trackStart padding widths (slot % packing.columns) + item.size.width = _
  rw [hslot, hwidth, trackStart_last hw (by omega), h.width, hlength]

theorem Arranged.exists_bottom (hrows : 0 < packing.rows) :
    ∃ rect ∈ packing.rects sizes, rect.bottom = packing.size.height - padding := by
  have hlength := h.extents.length_heights
  have hlast : packing.rows - 1 < heights.length := by omega
  have hh := List.getElem?_eq_getElem hlast
  obtain ⟨item, ⟨slot, hitem, hslot⟩, hhigh⟩ := (h.extents.highest _ _ hh).1
  have hheight : item.size.height = heights[packing.rows - 1] := hhigh
  refine ⟨_, h.mem_rects hitem, ?_⟩
  change trackStart padding heights (slot / packing.columns) + item.size.height = _
  rw [hslot, hheight, trackStart_last hh (by omega), h.height, hlength]

end Arranged

theorem bounds_of_encloses {rects : List (Rect ℚ)} {size : Size ℚ}
    (hencloses : ∀ rect ∈ rects, Rect.Encloses padding (.ofCorner .zero size) rect)
    (hcorner : ∃ rect ∈ rects, rect.x = padding ∧ rect.y = padding)
    (hright : ∃ rect ∈ rects, rect.right = size.width - padding)
    (hbottom : ∃ rect ∈ rects, rect.bottom = size.height - padding) :
    Bounds rects padding padding (size.width - padding) (size.height - padding) := by
  obtain ⟨first, hfirst, hx, hy⟩ := hcorner
  have hzero : (Scalar.zero : ℚ) = 0 := Scalar.zero_rat
  refine ⟨⟨⟨first, hfirst, hx⟩, ?_⟩, ⟨⟨first, hfirst, hy⟩, ?_⟩, ⟨hright, ?_⟩, ⟨hbottom, ?_⟩⟩
  · rintro x ⟨rect, hrect, rfl⟩
    have hleft : Scalar.zero + padding ≤ rect.x := (hencloses rect hrect).left
    linarith
  · rintro y ⟨rect, hrect, rfl⟩
    have htop : Scalar.zero + padding ≤ rect.y := (hencloses rect hrect).top
    linarith
  · rintro x ⟨rect, hrect, rfl⟩
    have hle : rect.right + padding ≤ Scalar.zero + size.width := (hencloses rect hrect).right
    linarith
  · rintro y ⟨rect, hrect, rfl⟩
    have hle : rect.bottom + padding ≤ Scalar.zero + size.height := (hencloses rect hrect).bottom
    linarith

end Tight

theorem sides_sortedItems {sizes : List (Size ℚ)}
    (hsides : ∀ size ∈ sizes, 0 ≤ size.width ∧ 0 ≤ size.height) :
    ∀ item ∈ sortedItems sizes, 0 ≤ item.size.width ∧ 0 ≤ item.size.height :=
  fun item hitem => hsides item.size (List.mem_of_getElem? (mem_sortedItems.1 hitem))

/-- The items of a packing are apart by the padding. The least box around them is the box of the
packing without the padding at each side, and the box has the size of its tracks, each as wide or as
high as its items ask for, with a padding before, between and behind them. -/
theorem pack_tight (sizes : List (Size ℚ)) (padding : ℚ) (objective : Objective) (hne : sizes ≠ [])
    (hsides : ∀ size ∈ sizes, 0 ≤ size.width ∧ 0 ≤ size.height) (hpadding : 0 ≤ padding) :
    let packing := pack sizes padding objective
    (packing.rects sizes).length = sizes.length ∧
    ((packing.rects sizes).Pairwise fun r s => Rect.Apart padding r s ∧ r.overlaps s = false) ∧
    Bounds (packing.rects sizes) padding padding (packing.size.width - padding)
      (packing.size.height - padding) ∧
    ∃ widths heights, Arranged (sortedItems sizes) padding packing widths heights := by
  intro packing
  have hnumbers := map_index_sortedItems sizes
  have hlength := length_sortedItems sizes
  have hitems := sortedItems_ne_nil hne
  obtain ⟨r, hr, hle, hpack⟩ := exists_pack_eq padding objective hne
  rw [← hlength] at hnumbers hle
  have harranged := arranged_packing padding hnumbers hitems hr hle (sides_sortedItems hsides)
  rw [← hpack] at harranged
  have hshape := shape_gridOf hitems hr hle
  have hcolumns : 0 < packing.columns := by
    have hpos := hshape.columns_pos (List.length_pos_iff.2 hitems)
    exact hpos.trans_eq (congrArg Packing.columns hpack).symm
  have hrows : 0 < packing.rows := by
    have hpos := hshape.div_lt (List.length_pos_iff.2 hitems) (List.length_pos_iff.2 hitems)
    exact (Nat.zero_lt_of_lt hpos).trans_eq (congrArg Packing.rows hpack).symm
  refine ⟨?_, ?_, ?_, _, _, harranged⟩
  · rw [Packing.rects, List.length_zipWith, length_positions_pack, Nat.min_self]
  · exact (pack_apart_rects objective hpadding).imp fun h => ⟨h, h.not_overlaps hpadding⟩
  · exact bounds_of_encloses (pack_encloses_rects objective hpadding)
      (harranged.exists_corner hne) (harranged.exists_right hcolumns)
      (harranged.exists_bottom hrows)

/-- Two flat sizes that are equal, a high one, and a point. -/
def flatSizes : List (Size ℚ) := [⟨300, 10⟩, ⟨0, 0⟩, ⟨40, 80⟩, ⟨300, 10⟩]

theorem sides_flatSizes : ∀ size ∈ flatSizes, 0 ≤ size.width ∧ 0 ≤ size.height := by
  decide

theorem pack_tight_flatSizes : flatSizes ≠ [] ∧
    (∀ size ∈ flatSizes, 0 ≤ size.width ∧ 0 ≤ size.height) ∧ (0 : ℚ) ≤ 7 ∧
    let packing := pack flatSizes 7 .squareAspect
    (packing.rects flatSizes).length = 4 ∧
    ((packing.rects flatSizes).Pairwise fun r s => r.overlaps s = false) ∧
    Bounds (packing.rects flatSizes) 7 7 (packing.size.width - 7) (packing.size.height - 7) := by
  have hne : flatSizes ≠ [] := List.cons_ne_nil _ _
  have hpadding : (0 : ℚ) ≤ 7 := by norm_num
  obtain ⟨hlength, hapart, hbounds, -⟩ :=
    pack_tight flatSizes 7 .squareAspect hne sides_flatSizes hpadding
  exact ⟨hne, sides_flatSizes, hpadding, hlength, hapart.imp And.right, hbounds⟩

end RefAtlas.Layout
