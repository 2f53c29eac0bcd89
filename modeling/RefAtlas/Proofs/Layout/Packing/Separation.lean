import Mathlib.Algebra.Order.BigOperators.Group.List
import Mathlib.Tactic.Linarith
import Mathlib.Tactic.Ring
import RefAtlas.Proofs.Layout.Packing.Cells
import RefAtlas.Proofs.Number.Rational

/-! # Packed rectangles keep their distance

Over exact coordinates a track begins behind the end of every track before it, and no item is larger
than its tracks. So items in different cells are apart, and all of them are within the box.

* `Rect.Encloses`, `Rect.Apart`: distances between rectangles; `Rect.Encloses.contains` and
  `Rect.Apart.not_overlaps` connect them with what the program computes.
* `Track`: the place and the extent of a track; `Track.le_of_lt` and `Track.end_le`.
* `exists_tracks`: the tracks in which an item lies.
* `pack_encloses`, `pack_apart`: the rectangles of a packing.
-/

namespace RefAtlas.Layout
open RefAtlas.Number
set_option autoImplicit false

/-! ## Distances between rectangles -/

namespace Rect

/-- The second rectangle lies within the first, with a gap at each of the four sides. -/
structure Encloses (gap : ℚ) (r s : Rect ℚ) : Prop where
  left : r.x + gap ≤ s.x
  top : r.y + gap ≤ s.y
  right : s.right + gap ≤ r.right
  bottom : s.bottom + gap ≤ r.bottom

/-- There is a gap between the rectangles, horizontally or vertically. -/
def Apart (gap : ℚ) (r s : Rect ℚ) : Prop :=
  r.right + gap ≤ s.x ∨ s.right + gap ≤ r.x ∨ r.bottom + gap ≤ s.y ∨ s.bottom + gap ≤ r.y

variable {gap : ℚ} {r s : Rect ℚ}

theorem Apart.symm (h : Apart gap r s) : Apart gap s r := by
  rcases h with h | h | h | h
  · exact .inr (.inl h)
  · exact .inl h
  · exact .inr (.inr (.inr h))
  · exact .inr (.inr (.inl h))

theorem Apart.not_overlaps (h : Apart gap r s) (hgap : 0 ≤ gap) : r.overlaps s = false := by
  rw [Bool.eq_false_iff]
  intro hover
  simp only [overlaps, Scalar.lt_rat, Bool.and_eq_true, decide_eq_true_eq] at hover
  obtain ⟨⟨⟨hleft, hright⟩, htop⟩, hbottom⟩ := hover
  rcases h with h | h | h | h
  · linarith
  · linarith
  · linarith
  · linarith

theorem Encloses.contains (h : Encloses gap r s) (hgap : 0 ≤ gap) : r.contains s = true := by
  have hleft := h.left
  have htop := h.top
  have hright := h.right
  have hbottom := h.bottom
  simp only [Rect.contains, Scalar.le_rat, Bool.and_eq_true, decide_eq_true_eq]
  refine ⟨⟨⟨?_, ?_⟩, ?_⟩, ?_⟩
  · linarith
  · linarith
  · linarith
  · linarith

theorem Apart.of_encloses {inner : ℚ} {r' s' : Rect ℚ} (h : Apart gap r s)
    (hr : Encloses inner r r') (hs : Encloses inner s s') (hinner : 0 ≤ inner) :
    Apart gap r' s' := by
  have hr₁ := hr.left
  have hr₂ := hr.top
  have hr₃ := hr.right
  have hr₄ := hr.bottom
  have hs₁ := hs.left
  have hs₂ := hs.top
  have hs₃ := hs.right
  have hs₄ := hs.bottom
  rcases h with h | h | h | h
  · exact .inl (by linarith)
  · exact .inr (.inl (by linarith))
  · exact .inr (.inr (.inl (by linarith)))
  · exact .inr (.inr (.inr (by linarith)))

theorem encloses_translate (offset : Point ℚ) (h : Encloses gap r s) :
    Encloses gap (r.translate offset) (s.translate offset) where
  left := by
    have hleft := h.left
    change r.x + offset.x + gap ≤ s.x + offset.x
    linarith
  top := by
    have htop := h.top
    change r.y + offset.y + gap ≤ s.y + offset.y
    linarith
  right := by
    have hright : s.x + s.width + gap ≤ r.x + r.width := h.right
    change s.x + offset.x + s.width + gap ≤ r.x + offset.x + r.width
    linarith
  bottom := by
    have hbottom : s.y + s.height + gap ≤ r.y + r.height := h.bottom
    change s.y + offset.y + s.height + gap ≤ r.y + offset.y + r.height
    linarith

theorem apart_translate (offset : Point ℚ) (h : Apart gap r s) :
    Apart gap (r.translate offset) (s.translate offset) := by
  simp only [Apart, Rect.right, Rect.bottom] at h
  rcases h with h | h | h | h
  · left
    change r.x + offset.x + r.width + gap ≤ s.x + offset.x
    linarith
  · right; left
    change s.x + offset.x + s.width + gap ≤ r.x + offset.x
    linarith
  · right; right; left
    change r.y + offset.y + r.height + gap ≤ s.y + offset.y
    linarith
  · right; right; right
    change s.y + offset.y + s.height + gap ≤ r.y + offset.y
    linarith

end Rect

/-! ## Tracks -/

/-- The track with number `c` begins at `start` and has the given extent. -/
structure Track (padding cursor : ℚ) (extents : List ℚ) (c : Nat) (start extent : ℚ) : Prop where
  start : (offsets padding cursor extents)[c]? = some start
  extent : extents[c]? = some extent

namespace Track
variable {padding cursor : ℚ} {extents : List ℚ} {c : Nat} {start extent : ℚ}

theorem succ {first : ℚ} (h : Track padding cursor (first :: extents) (c + 1) start extent) :
    Track padding (cursor + (first + padding)) extents c start extent :=
  ⟨h.start, h.extent⟩

theorem cursor_le (h : Track padding cursor extents c start extent) (hpadding : 0 ≤ padding)
    (hextents : ∀ e ∈ extents, 0 ≤ e) : cursor ≤ start := by
  induction extents generalizing cursor c with
  | nil => cases h.extent
  | cons first rest ih =>
    cases c with
    | zero => exact (Option.some.inj h.start).le
    | succ c =>
      have hrest := ih h.succ fun e he => hextents e (List.mem_cons_of_mem _ he)
      have hfirst := hextents first List.mem_cons_self
      linarith

theorem end_le (h : Track padding cursor extents c start extent) (hpadding : 0 ≤ padding)
    (hextents : ∀ e ∈ extents, 0 ≤ e) :
    start + extent + padding ≤ cursor + (extents.sum + padding * extents.length) := by
  induction extents generalizing cursor c with
  | nil => cases h.extent
  | cons first rest ih =>
    have hrest : ∀ e ∈ rest, 0 ≤ e := fun e he => hextents e (List.mem_cons_of_mem _ he)
    have hlength : ((first :: rest).length : ℚ) = rest.length + 1 := by
      rw [List.length_cons, Nat.cast_succ]
    rw [List.sum_cons, hlength]
    cases c with
    | zero =>
      have hstart : cursor = start := Option.some.inj h.start
      have hextent : first = extent := Option.some.inj h.extent
      have hsum : 0 ≤ rest.sum := List.sum_nonneg hrest
      have hpaddings : 0 ≤ padding * rest.length := mul_nonneg hpadding (Nat.cast_nonneg _)
      linarith
    | succ c =>
      have hlater := ih h.succ hrest
      linarith

theorem le_of_lt {c' : Nat} {start' extent' : ℚ} (h : Track padding cursor extents c start extent)
    (h' : Track padding cursor extents c' start' extent') (hlt : c < c') (hpadding : 0 ≤ padding)
    (hextents : ∀ e ∈ extents, 0 ≤ e) : start + extent + padding ≤ start' := by
  induction extents generalizing cursor c c' with
  | nil => cases h.extent
  | cons first rest ih =>
    have hrest : ∀ e ∈ rest, 0 ≤ e := fun e he => hextents e (List.mem_cons_of_mem _ he)
    cases c' with
    | zero => exact absurd hlt (Nat.not_lt_zero c)
    | succ c' =>
      cases c with
      | zero =>
        have hstart : cursor = start := Option.some.inj h.start
        have hextent : first = extent := Option.some.inj h.extent
        have hnext := h'.succ.cursor_le hpadding hrest
        linarith
      | succ c => exact ih h.succ h'.succ (Nat.lt_of_succ_lt_succ hlt) hrest

end Track

/-! ## The extents of tracks -/

theorem le_foldl_height (row : List (Item ℚ)) (least : ℚ) :
    least ≤ row.foldl (fun h item => Scalar.max h item.size.height) least ∧
      ∀ item ∈ row,
        item.size.height ≤ row.foldl (fun h item => Scalar.max h item.size.height) least := by
  induction row generalizing least with
  | nil => exact ⟨le_refl least, fun item hitem => by cases hitem⟩
  | cons first rest ih =>
    obtain ⟨hleast, hrest⟩ := ih (Scalar.max least first.size.height)
    rw [List.foldl_cons]
    rw [Scalar.max_rat] at hleast hrest ⊢
    refine ⟨(le_max_left _ _).trans hleast, fun item hitem => ?_⟩
    rcases List.mem_cons.1 hitem with rfl | hitem
    · exact (le_max_right _ _).trans hleast
    · exact hrest item hitem

theorem le_widen (row : List (Item ℚ)) {widths : List ℚ} {c : Nat} {w : ℚ}
    (h : widths[c]? = some w) :
    ∃ w', (widen widths row)[c]? = some w' ∧ w ≤ w' ∧
      ∀ item, row[c]? = some item → item.size.width ≤ w' := by
  induction row generalizing widths c with
  | nil =>
    have hsame : widen widths [] = widths := by cases widths <;> rfl
    rw [hsame]
    refine ⟨w, h, le_refl w, fun item hitem => ?_⟩
    rw [List.getElem?_nil] at hitem
    cases hitem
  | cons first rest ih =>
    cases widths with
    | nil =>
      rw [List.getElem?_nil] at h
      cases h
    | cons v ws =>
      cases c with
      | zero =>
        obtain rfl : v = w := Option.some.inj h
        have hmax := Scalar.max_rat v first.size.width
        refine ⟨Scalar.max v first.size.width, rfl, ?_, fun item hitem => ?_⟩
        · rw [hmax]
          exact le_max_left _ _
        · obtain rfl : first = item := Option.some.inj hitem
          rw [hmax]
          exact le_max_right _ _
      | succ c =>
        have hrest : ws[c]? = some w := h
        exact ih hrest

theorem le_foldl_widen (rows : List (List (Item ℚ))) {widths : List ℚ} {c : Nat} {w : ℚ}
    (h : widths[c]? = some w) :
    ∃ w', (rows.foldl widen widths)[c]? = some w' ∧ w ≤ w' ∧
      ∀ row ∈ rows, ∀ item, row[c]? = some item → item.size.width ≤ w' := by
  induction rows generalizing widths w with
  | nil => exact ⟨w, h, le_refl w, fun row hrow => by cases hrow⟩
  | cons first rest ih =>
    obtain ⟨w₁, hfirst, hle₁, hitems₁⟩ := le_widen first h
    obtain ⟨w₂, hrest, hle₂, hitems₂⟩ := ih hfirst
    refine ⟨w₂, hrest, hle₁.trans hle₂, fun row hrow item hitem => ?_⟩
    rcases List.mem_cons.1 hrow with rfl | hrow
    · exact (hitems₁ item hitem).trans hle₂
    · exact hitems₂ row hrow item hitem

section Tracks
variable {columns : Nat} {rows : List (List (Item ℚ))}

theorem exists_columnWidth (rows : List (List (Item ℚ))) {c : Nat} (hc : c < columns) :
    ∃ w, (Grid.ofRows columns rows).columnWidths[c]? = some w ∧ 0 ≤ w ∧
      ∀ row ∈ rows, ∀ item, row[c]? = some item → item.size.width ≤ w := by
  have hzero : (List.replicate columns (Scalar.zero : ℚ))[c]? = some 0 := by
    rw [List.getElem?_replicate, if_pos hc, Scalar.zero_rat]
  exact le_foldl_widen rows hzero

theorem columnWidths_nonneg (hfits : ∀ row ∈ rows, row.length ≤ columns) :
    ∀ w ∈ (Grid.ofRows columns rows).columnWidths, 0 ≤ w := by
  intro w hw
  obtain ⟨c, hc⟩ := List.getElem?_of_mem hw
  have hlt := (List.getElem?_eq_some_iff.1 hc).1
  rw [(Grid.shaped_ofRows hfits).widths] at hlt
  obtain ⟨w', hw', hnonneg, -⟩ := exists_columnWidth rows hlt
  obtain rfl : w = w' := Option.some.inj (hc.symm.trans hw')
  exact hnonneg

theorem rowHeights_nonneg (columns : Nat) (rows : List (List (Item ℚ))) :
    ∀ h ∈ (Grid.ofRows columns rows).rowHeights, 0 ≤ h := by
  intro h hh
  obtain ⟨row, -, rfl⟩ := List.mem_map.1 hh
  have hle := (le_foldl_height row Scalar.zero).1
  rwa [Scalar.zero_rat] at hle

/-- The column and the row of an item are at least as large as the item. -/
theorem exists_tracks (hfits : ∀ row ∈ rows, row.length ≤ columns) {padding x y : ℚ} {r c : Nat}
    {item : Item ℚ} (hcell : (Grid.ofRows columns rows).cell? r c = some item)
    (hx : (offsets padding padding (Grid.ofRows columns rows).columnWidths)[c]? = some x)
    (hy : (offsets padding padding (Grid.ofRows columns rows).rowHeights)[r]? = some y) :
    ∃ w h, Track padding padding (Grid.ofRows columns rows).columnWidths c x w ∧
      Track padding padding (Grid.ofRows columns rows).rowHeights r y h ∧
      item.size.width ≤ w ∧ item.size.height ≤ h := by
  obtain ⟨row, hrow, hitem⟩ := Grid.cell?_eq_some_iff.1 hcell
  have hmem : row ∈ rows := List.mem_of_getElem? hrow
  have hc : c < columns :=
    (List.getElem?_eq_some_iff.1 hitem).1.trans_le (hfits row hmem)
  obtain ⟨w, hw, -, hwidth⟩ := exists_columnWidth rows hc
  have hheight : (Grid.ofRows columns rows).rowHeights[r]? = some (rowHeight row) := by
    change (rows.map rowHeight)[r]? = _
    rw [List.getElem?_map]
    exact congrArg (Option.map rowHeight) hrow
  exact ⟨w, rowHeight row, ⟨hx, hw⟩, ⟨hy, hheight⟩, hwidth row hmem item hitem,
    (le_foldl_height row Scalar.zero).2 item (List.mem_of_getElem? hitem)⟩

end Tracks

theorem tracksExtent_eq (extents : List ℚ) (padding : ℚ) :
    tracksExtent extents padding = padding + (extents.sum + padding * extents.length) := by
  rw [tracksExtent, Scalar.sum_rat, Scalar.ofNat_rat, Nat.cast_succ]
  ring

/-! ## The rectangles of a packing -/

section Pack
variable {sizes : List (Size ℚ)} {padding : ℚ} {i : Nat} {size : Size ℚ} {corner : Point ℚ}

/-- Every item of a packing lies within its box, with the padding at each side. -/
theorem pack_encloses (objective : Objective) (hpadding : 0 ≤ padding)
    (hsize : sizes[i]? = some size)
    (hcorner : (pack sizes padding objective).positions[i]? = some corner) :
    Rect.Encloses padding (.ofCorner .zero (pack sizes padding objective).size)
      (.ofCorner corner size) := by
  have hne : sizes ≠ [] := List.ne_nil_of_mem (List.mem_of_getElem? hsize)
  obtain ⟨k, hk, -, hbox, -, hpositions⟩ := exists_grid_pack padding objective hne
  obtain ⟨r, c, item, hcell, rfl, hx, hy⟩ := (hpositions i corner).1 hcorner
  obtain rfl : item.size = size :=
    Option.some.inj ((mem_sortedItems.1 (mem_of_cell? hk hcell)).symm.trans hsize)
  have hfits := (shaped_gridOf (sortedItems sizes) k).fits
  obtain ⟨w, h, hcolumn, hrow, hw, hh⟩ := exists_tracks hfits hcell hx hy
  have hwidths := columnWidths_nonneg hfits
  have hheights := rowHeights_nonneg (ceilDiv (sortedItems sizes).length k)
    (gridOf (sortedItems sizes) k).rows
  have hright := hcolumn.end_le hpadding hwidths
  have hbottom := hrow.end_le hpadding hheights
  rw [← tracksExtent_eq] at hright hbottom
  rw [hbox]
  refine ⟨?_, ?_, ?_, ?_⟩
  · change Scalar.zero + padding ≤ corner.x
    rw [Scalar.zero_rat, zero_add]
    exact hcolumn.cursor_le hpadding hwidths
  · change Scalar.zero + padding ≤ corner.y
    rw [Scalar.zero_rat, zero_add]
    exact hrow.cursor_le hpadding hheights
  · change corner.x + item.size.width + padding ≤ Scalar.zero + tracksExtent _ padding
    rw [Scalar.zero_rat, zero_add]
    exact le_trans (by linarith) hright
  · change corner.y + item.size.height + padding ≤ Scalar.zero + tracksExtent _ padding
    rw [Scalar.zero_rat, zero_add]
    exact le_trans (by linarith) hbottom

theorem pack_apart (objective : Objective) (hpadding : 0 ≤ padding) {j : Nat} {size' : Size ℚ}
    {corner' : Point ℚ} (hij : i ≠ j) (hsize : sizes[i]? = some size)
    (hcorner : (pack sizes padding objective).positions[i]? = some corner)
    (hsize' : sizes[j]? = some size')
    (hcorner' : (pack sizes padding objective).positions[j]? = some corner') :
    Rect.Apart padding (.ofCorner corner size) (.ofCorner corner' size') := by
  have hne : sizes ≠ [] := List.ne_nil_of_mem (List.mem_of_getElem? hsize)
  obtain ⟨k, hk, -, -, -, hpositions⟩ := exists_grid_pack padding objective hne
  obtain ⟨r, c, item, hcell, rfl, hx, hy⟩ := (hpositions i corner).1 hcorner
  obtain ⟨r', c', item', hcell', rfl, hx', hy'⟩ := (hpositions j corner').1 hcorner'
  obtain rfl : item.size = size :=
    Option.some.inj ((mem_sortedItems.1 (mem_of_cell? hk hcell)).symm.trans hsize)
  obtain rfl : item'.size = size' :=
    Option.some.inj ((mem_sortedItems.1 (mem_of_cell? hk hcell')).symm.trans hsize')
  have hfits := (shaped_gridOf (sortedItems sizes) k).fits
  obtain ⟨w, h, hcolumn, hrow, hw, hh⟩ := exists_tracks hfits hcell hx hy
  obtain ⟨w', h', hcolumn', hrow', hw', hh'⟩ := exists_tracks hfits hcell' hx' hy'
  have hwidths := columnWidths_nonneg hfits
  have hheights := rowHeights_nonneg (ceilDiv (sortedItems sizes).length k)
    (gridOf (sortedItems sizes) k).rows
  -- different items are in different cells, so their columns or their rows differ
  rcases lt_trichotomy c c' with hc | rfl | hc
  · left
    change corner.x + item.size.width + padding ≤ corner'.x
    have hgap := hcolumn.le_of_lt hcolumn' hc hpadding hwidths
    linarith
  · rcases lt_trichotomy r r' with hr | rfl | hr
    · right; right; left
      change corner.y + item.size.height + padding ≤ corner'.y
      have hgap := hrow.le_of_lt hrow' hr hpadding hheights
      linarith
    · have hsame : item = item' := Option.some.inj (hcell.symm.trans hcell')
      exact absurd (congrArg Item.index hsame) hij
    · right; right; right
      change corner'.y + item'.size.height + padding ≤ corner.y
      have hgap := hrow'.le_of_lt hrow hr hpadding hheights
      linarith
  · right; left
    change corner'.x + item'.size.width + padding ≤ corner.x
    have hgap := hcolumn'.le_of_lt hcolumn hc hpadding hwidths
    linarith

end Pack

end RefAtlas.Layout
