import Mathlib.Analysis.Real.Sqrt
import RefAtlas.Number.Single
import RefAtlas.Proofs.Chunk
import RefAtlas.Proofs.Layout.Packing.Cells

/-! # The slots of a grid

The items of a grid stand in slots that are numbered row by row: slot `s` of a grid with `c` columns
is the cell in row `s / c` and column `s % c`. All of this is counting, so it holds whatever the
coordinates compute, even where they are no numbers.

* `ceilSqrt_eq`: how many rows are tried at most.
* `GridShape`: how many rows and columns a grid for `n` items has if at most `r` rows are tried.
* `Grid.Slotted`: every slot is a cell of its own, within the tracks, and no row or column is empty.
* `pack_slots`: every grid that is tried is of this kind, and the packing gives each item the corner
  of its slot.
-/

namespace RefAtlas.Layout
open RefAtlas.Number
set_option autoImplicit false

/-! ## The number of rows to try -/

theorem ceilSqrt_le_iff {n r : ℕ} : ceilSqrt n ≤ r ↔ n ≤ r * r := by
  rw [ceilSqrt]
  cases hfind : (List.range (n + 1)).find? fun k => decide (n ≤ k * k) with
  | none =>
    have hself := List.find?_eq_none.1 hfind n (List.mem_range.2 (Nat.lt_succ_self n))
    exact absurd (decide_eq_true (Nat.le_mul_self n)) hself
  | some k =>
    obtain ⟨hk, -, hleast⟩ := List.find?_range_eq_some.1 hfind
    rw [Option.getD_some]
    constructor
    · intro hle
      exact (of_decide_eq_true hk).trans (Nat.mul_le_mul hle hle)
    · intro hr
      refine Nat.le_of_not_lt fun hlt => ?_
      have hnot := hleast r hlt
      simp [hr] at hnot

theorem ceilSqrt_pos {n : ℕ} (hn : 0 < n) : 0 < ceilSqrt n := by
  refine Nat.lt_of_not_le fun hzero => ?_
  rw [ceilSqrt_le_iff] at hzero
  omega

theorem ceilSqrt_eq (n : ℕ) : ceilSqrt n = ⌈√(n : ℝ)⌉₊ := by
  refine eq_of_forall_ge_iff fun r => ?_
  rw [ceilSqrt_le_iff, Nat.ceil_le, Real.sqrt_le_left (Nat.cast_nonneg r), ← Nat.cast_pow,
    Nat.cast_le, sq]

/-! ## Counting rows and columns -/

/-- The rows and columns of a grid for `n` items that may have up to `r` rows. -/
structure GridShape (n r rows columns : ℕ) : Prop where
  columns_eq : columns = n ⌈/⌉ r
  rows_eq : rows = n ⌈/⌉ columns
  rows_le : rows ≤ r
  holds : n ≤ rows * columns
  last_row : (rows - 1) * columns < n
  near_square : rows ≤ columns + 1

section Count
variable {n r rows columns : ℕ}

theorem pos_ceilDiv (hn : 0 < n) (hr : 0 < r) : 0 < n ⌈/⌉ r := by
  refine Nat.pos_of_ne_zero fun hzero => ?_
  have hle := (ceilDiv_le_iff_le_mul hr).1 (Nat.le_of_eq hzero)
  omega

/-- With two rows more than columns fewer rows would do. -/
theorem le_succ_of_le_mul (hfit : n ≤ r * columns) (hroot : ¬n ≤ (r - 1) * (r - 1)) :
    r ≤ columns + 1 := by
  by_contra hmore
  obtain ⟨d, rfl⟩ : ∃ d, r = columns + 2 + d := ⟨r - (columns + 2), by omega⟩
  refine hroot (hfit.trans ?_)
  have hless : columns + 2 + d - 1 = columns + 1 + d := by omega
  rw [hless]
  nlinarith

theorem shape_ceilDiv (hn : 0 < n) (hr : 0 < r) (hle : r ≤ ceilSqrt n) :
    GridShape n r (n ⌈/⌉ (n ⌈/⌉ r)) (n ⌈/⌉ r) := by
  have hcolumns := pos_ceilDiv hn hr
  have hrows := pos_ceilDiv hn hcolumns
  have hfit : n ≤ r * (n ⌈/⌉ r) := (ceilDiv_le_iff_le_mul hr).1 le_rfl
  have hholds : n ≤ n ⌈/⌉ r * (n ⌈/⌉ (n ⌈/⌉ r)) := (ceilDiv_le_iff_le_mul hcolumns).1 le_rfl
  have hused : n ⌈/⌉ (n ⌈/⌉ r) ≤ r := by
    rw [ceilDiv_le_iff_le_mul hcolumns, Nat.mul_comm]
    exact hfit
  have hlast : ¬n ≤ n ⌈/⌉ r * (n ⌈/⌉ (n ⌈/⌉ r) - 1) := by
    rw [← ceilDiv_le_iff_le_mul hcolumns]
    omega
  have hroot : ¬n ≤ (r - 1) * (r - 1) := by
    rw [← ceilSqrt_le_iff]
    omega
  refine ⟨rfl, rfl, hused, ?_, ?_, hused.trans (le_succ_of_le_mul hfit hroot)⟩
  · rwa [Nat.mul_comm]
  · rw [Nat.mul_comm]
    exact Nat.lt_of_not_le hlast

namespace GridShape
variable (h : GridShape n r rows columns)
include h

theorem columns_pos (hn : 0 < n) : 0 < columns := by
  refine Nat.pos_of_ne_zero fun hzero => ?_
  have hholds := h.holds
  rw [hzero, Nat.mul_zero] at hholds
  omega

theorem div_lt (hn : 0 < n) {slot : ℕ} (hslot : slot < n) : slot / columns < rows := by
  rw [Nat.div_lt_iff_lt_mul (h.columns_pos hn)]
  exact hslot.trans_le h.holds

theorem exists_slot_row (hn : 0 < n) {row : ℕ} (hrow : row < rows) :
    ∃ slot < n, slot / columns = row := by
  have hfirst : row * columns ≤ (rows - 1) * columns := Nat.mul_le_mul_right _ (by omega)
  exact ⟨row * columns, hfirst.trans_lt h.last_row, Nat.mul_div_cancel _ (h.columns_pos hn)⟩

theorem exists_slot_column (hr : 0 < r) {column : ℕ} (hcolumn : column < columns) :
    ∃ slot < n, slot % columns = column := by
  have hle : columns ≤ n := by
    rw [h.columns_eq, ceilDiv_le_iff_le_mul hr]
    exact Nat.le_mul_of_pos_left n hr
  exact ⟨column, hcolumn.trans_le hle, Nat.mod_eq_of_lt hcolumn⟩

end GridShape

end Count

/-! ## The cells of the slots -/

variable {α : Type} [Scalar α]

/-- Each slot is a cell of its own, no slot is beyond the tracks, and every row and every column has
a slot. -/
structure Grid.Slotted (g : Grid α) (items : List (Item α)) : Prop where
  widths : g.columnWidths.length = g.columns
  heights : g.rowHeights.length = g.rows.length
  in_columns : ∀ slot < items.length, slot % g.columns < g.columnWidths.length
  in_rows : ∀ slot < items.length, slot / g.columns < g.rowHeights.length
  cell : ∀ slot < items.length, g.cell? (slot / g.columns) (slot % g.columns) = items[slot]?
  distinct : ∀ s t, s / g.columns = t / g.columns → s % g.columns = t % g.columns → s = t
  every_row : ∀ row < g.rows.length, ∃ slot < items.length, slot / g.columns = row
  every_column : ∀ column < g.columns, ∃ slot < items.length, slot % g.columns = column

section Slots
variable {items : List (Item α)} {r : ℕ}

theorem columns_gridOf (items : List (Item α)) (hr : 0 < r) :
    (gridOf items r).columns = items.length ⌈/⌉ r := ceilDiv_eq _ hr

theorem cell?_gridOf (items : List (Item α)) {row column : ℕ}
    (hcolumn : column < (gridOf items r).columns) :
    (gridOf items r).cell? row column = items[row * (gridOf items r).columns + column]? :=
  getElem?_chunks hcolumn items row

theorem shape_gridOf (hne : items ≠ []) (hr : 0 < r) (hle : r ≤ ceilSqrt items.length) :
    GridShape items.length r (gridOf items r).rows.length (gridOf items r).columns := by
  have hn := List.length_pos_iff.2 hne
  have hcolumns := columns_gridOf items hr
  have hrows : (gridOf items r).rows.length = items.length ⌈/⌉ (gridOf items r).columns := by
    refine length_chunks ?_ items
    rw [ceilDiv_eq _ hr]
    exact pos_ceilDiv hn hr
  rw [hrows, hcolumns]
  exact shape_ceilDiv hn hr hle

theorem slotted_gridOf (hne : items ≠ []) (hr : 0 < r) (hle : r ≤ ceilSqrt items.length) :
    (gridOf items r).Slotted items := by
  have hn := List.length_pos_iff.2 hne
  have hshape := shape_gridOf hne hr hle
  have hshaped := shaped_gridOf items r
  have hcolumn : ∀ slot : ℕ, slot % (gridOf items r).columns < (gridOf items r).columns :=
    fun slot => Nat.mod_lt slot (hshape.columns_pos hn)
  refine ⟨hshaped.widths, hshaped.heights, ?_, ?_, ?_, ?_, ?_, ?_⟩
  · intro slot _
    rw [hshaped.widths]
    exact hcolumn slot
  · intro slot hslot
    rw [hshaped.heights]
    exact hshape.div_lt hn hslot
  · intro slot _
    rw [cell?_gridOf items (hcolumn slot), Nat.div_add_mod']
  · intro s t hrow hcol
    rw [← Nat.div_add_mod' s (gridOf items r).columns, hrow, hcol, Nat.div_add_mod']
  · exact fun row hrow => hshape.exists_slot_row hn hrow
  · exact fun column hcol => hshape.exists_slot_column hr hcol

theorem exists_corner_slot {n : ℕ} (padding : α)
    (hnumbers : (items.map Item.index).Perm (List.range n)) (hr : 0 < r)
    (hslotted : (gridOf items r).Slotted items) {slot : ℕ} {item : Item α}
    (hitem : items[slot]? = some item) :
    ∃ x y, (offsets padding padding (gridOf items r).columnWidths)[slot % (gridOf items r).columns]? =
        some x ∧
      (offsets padding padding (gridOf items r).rowHeights)[slot / (gridOf items r).columns]? =
        some y ∧
      ((gridOf items r).packing padding).positions[item.index]? = some ⟨x, y⟩ := by
  have hslot : slot < items.length := (List.getElem?_eq_some_iff.1 hitem).1
  have hcolumn := hslotted.in_columns slot hslot
  have hrow := hslotted.in_rows slot hslot
  rw [← length_offsets padding padding] at hcolumn hrow
  have hcell := (hslotted.cell slot hslot).trans hitem
  have hx := List.getElem?_eq_getElem hcolumn
  have hy := List.getElem?_eq_getElem hrow
  exact ⟨_, _, hx, hy,
    (getElem?_positions_packing padding hnumbers hr).2 ⟨_, _, item, hcell, rfl, hx, hy⟩⟩

end Slots

theorem sortedItems_ne_nil {sizes : List (Size α)} (h : sizes ≠ []) : sortedItems sizes ≠ [] := by
  rw [← List.length_pos_iff, length_sortedItems]
  exact List.length_pos_iff.2 h

theorem exists_pack_eq {sizes : List (Size α)} (padding : α) (objective : Objective)
    (h : sizes ≠ []) : ∃ r, 0 < r ∧ r ≤ ceilSqrt sizes.length ∧
      pack sizes padding objective = (gridOf (sortedItems sizes) r).packing padding := by
  obtain ⟨r, hr, hle, hbest⟩ := exists_bestGrid_eq (sortedItems sizes) padding objective
  rw [length_sortedItems, max_eq_right (ceilSqrt_pos (List.length_pos_iff.2 h))] at hle
  exact ⟨r, hr, hle, by rw [pack_eq_packing padding objective h, hbest]⟩

/-- Whatever the coordinates are, every grid that is tried has its slots within its tracks. The
packing is one of these grids; it has a corner for every item of the input, where the row and the
column of the item's slot start. -/
theorem pack_slots (sizes : List (Size α)) (padding : α) (objective : Objective) (h : sizes ≠ []) :
    let items := sortedItems sizes
    let packing := pack sizes padding objective
    (items.map Item.index).Perm (List.range sizes.length) ∧
    (∀ r ∈ Set.Icc 1 ⌈√(sizes.length : ℝ)⌉₊,
      GridShape sizes.length r (gridOf items r).rows.length (gridOf items r).columns ∧
        (gridOf items r).Slotted items) ∧
    packing.positions.length = sizes.length ∧
    ∃ r ∈ Set.Icc 1 ⌈√(sizes.length : ℝ)⌉₊, GridShape sizes.length r packing.rows packing.columns ∧
      packing.rows = (gridOf items r).rows.length ∧ packing.columns = (gridOf items r).columns ∧
      ∃ xs ys : List α,
      xs = offsets padding padding (gridOf items r).columnWidths ∧ xs.length = packing.columns ∧
      ys = offsets padding padding (gridOf items r).rowHeights ∧ ys.length = packing.rows ∧
      ∀ slot item, items[slot]? = some item → ∃ x y, xs[slot % packing.columns]? = some x ∧
        ys[slot / packing.columns]? = some y ∧ packing.positions[item.index]? = some ⟨x, y⟩ := by
  intro items packing
  have hnumbers := map_index_sortedItems sizes
  have hlength : items.length = sizes.length := length_sortedItems sizes
  have hne : items ≠ [] := sortedItems_ne_nil h
  rw [← ceilSqrt_eq, ← hlength]
  obtain ⟨r, hr, hle, hpack⟩ := exists_pack_eq padding objective h
  rw [← hlength] at hle
  have hslotted := slotted_gridOf hne hr hle
  have hrows : packing.rows = (gridOf items r).rows.length := congrArg Packing.rows hpack
  have hcolumns : packing.columns = (gridOf items r).columns := congrArg Packing.columns hpack
  refine ⟨hlength ▸ hnumbers,
    fun k hk => ⟨shape_gridOf hne hk.1 hk.2, slotted_gridOf hne hk.1 hk.2⟩, ?_, r, ⟨hr, hle⟩,
    ?_, hrows, hcolumns, _, _, rfl, ?_, rfl, ?_, ?_⟩
  · rw [hlength]
    exact length_positions_pack padding objective sizes
  · rw [hrows, hcolumns]
    exact shape_gridOf hne hr hle
  · rw [length_offsets, hslotted.widths, hcolumns]
  · rw [length_offsets, hslotted.heights, hrows]
  · intro slot item hitem
    have hcorner := exists_corner_slot padding hnumbers hr hslotted hitem
    rw [← hpack] at hcorner
    rw [hcolumns]
    exact hcorner

/-- Five sizes, of which two are no number or infinite. -/
def brokenSizes : List (Size Float32) :=
  [⟨Single.undefined, Single.ofNat 1⟩, ⟨Single.ofNat 3, Single.ofNat 2⟩,
    ⟨Single.ofNumeral (.infinite false), Single.ofNat 0⟩, ⟨Single.ofNat 1, Single.ofNat 1⟩,
    ⟨Single.ofNat 4, Single.ofNat 4⟩]

theorem pack_slots_brokenSizes : brokenSizes ≠ [] ∧
    (pack brokenSizes Single.undefined .squareAspect).positions.length = 5 ∧
    ∀ r ∈ Set.Icc 1 3, GridShape 5 r (gridOf (sortedItems brokenSizes) r).rows.length
      (gridOf (sortedItems brokenSizes) r).columns := by
  have hne : brokenSizes ≠ [] := List.cons_ne_nil _ _
  obtain ⟨-, hgrids, hlength, -⟩ := pack_slots brokenSizes Single.undefined .squareAspect hne
  have hroot : ⌈√(brokenSizes.length : ℝ)⌉₊ = 3 := by
    rw [← ceilSqrt_eq]
    decide
  rw [hroot] at hgrids
  exact ⟨hne, hlength, fun r hr => (hgrids r hr).1⟩

end RefAtlas.Layout
