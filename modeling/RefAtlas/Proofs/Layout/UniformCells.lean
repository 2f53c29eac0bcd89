import RefAtlas.Layout.Uniform
import RefAtlas.Proofs.Dictionary
import RefAtlas.Proofs.Layout.Packing.Separation

/-! # Uniform cells keep nodes apart

Over exact coordinates the cells of a uniform grid are apart by the spacing, in whatever number of
columns, and every node lies within a cell of its own.

* `arrangeInColumns`: the grid with any number of columns; `one_le_columnCount`: the program never
  counts less than one.
* `fitsIn_cellSize`: a cell is as large as all sizes.
* `Rect.ApartBy`: a gap between rectangles; `UniformConfig.cells_apart`: between cells.
* `uniform_cells_apart`: the cells and the nodes of a grid.
-/

namespace RefAtlas.Layout
open RefAtlas.Number
set_option autoImplicit false

/-! ## The number of columns -/

section Columns
variable {α : Type} [Scalar α]

/-- The uniform grid with a given number of columns. -/
def arrangeInColumns (columns : Nat) (nodes : List String) (measured : Dictionary (Size α))
    (config : UniformConfig α) : Arrangement α :=
  let cell := cellSize nodes measured config
  .flat (Dictionary.ofList (nodes.zipIdx.map fun (id, i) =>
    (id, .ofCorner (cellCorner columns cell config i) ((measured.get? id).getD cell))))

theorem arrangeUniform_eq (nodes : List String) (measured : Dictionary (Size α))
    (config : UniformConfig α) :
    arrangeUniform nodes measured config =
      arrangeInColumns (columnCount nodes.length config.aspectRatio) nodes measured config := rfl

theorem one_le_columnCount (n : Nat) (aspectRatio : α) : 1 ≤ columnCount n aspectRatio :=
  Nat.le_max_right _ _

/-- The rectangle of a node on the grid, from its number in the list. -/
def gridRect (columns : Nat) (nodes : List String) (measured : Dictionary (Size α))
    (config : UniformConfig α) (id : String) (i : Nat) : Rect α :=
  .ofCorner (cellCorner columns (cellSize nodes measured config) config i)
    ((measured.get? id).getD (cellSize nodes measured config))

theorem nodeRect?_arrangeInColumns {nodes : List String} (hnodes : nodes.Nodup) {columns : Nat}
    {measured : Dictionary (Size α)} {config : UniformConfig α} {id : String} {rect : Rect α} :
    (arrangeInColumns columns nodes measured config).nodeRect? id = some rect ↔
      ∃ i, nodes[i]? = some id ∧ gridRect columns nodes measured config id i = rect := by
  let boxes := nodes.zipIdx.map fun (id, i) => (id, gridRect columns nodes measured config id i)
  have hids : (boxes.map Prod.fst).Nodup := by
    rw [List.map_map]
    exact (List.zipIdx_map_fst 0 nodes).symm ▸ hnodes
  have hsame : ∀ key v w, (key, v) ∈ boxes → (key, w) ∈ boxes → v = w := fun key v w hv hw =>
    (Prod.mk.inj (List.inj_on_of_nodup_map hids hv hw rfl)).2
  refine (Dictionary.get?_ofList_eq_some_iff hsame).trans ?_
  simp only [boxes, List.mem_map, Prod.exists, List.mem_zipIdx_iff_getElem?, Prod.mk.injEq]
  constructor
  · rintro ⟨_, i, hi, rfl, hrect⟩
    exact ⟨i, hi, hrect⟩
  · rintro ⟨i, hi, hrect⟩
    exact ⟨id, i, hi, rfl, hrect⟩

end Columns

/-! ## The size of a cell -/

/-- The second size is at least as wide and as high as the first. -/
structure Size.FitsIn (s t : Size ℚ) : Prop where
  width : s.width ≤ t.width
  height : s.height ≤ t.height

theorem Size.FitsIn.refl (s : Size ℚ) : s.FitsIn s := ⟨le_refl _, le_refl _⟩

theorem Size.FitsIn.trans {s t u : Size ℚ} (h : s.FitsIn t) (h' : t.FitsIn u) : s.FitsIn u :=
  ⟨h.width.trans h'.width, h.height.trans h'.height⟩

theorem Size.max_rat (s t : Size ℚ) :
    s.max t = ⟨Max.max s.width t.width, Max.max s.height t.height⟩ := by
  rw [Size.max, Scalar.max_rat, Scalar.max_rat]

theorem Size.fitsIn_max_left (s t : Size ℚ) : s.FitsIn (s.max t) := by
  rw [max_rat]
  exact ⟨le_max_left _ _, le_max_left _ _⟩

theorem Size.fitsIn_max_right (s t : Size ℚ) : t.FitsIn (s.max t) := by
  rw [max_rat]
  exact ⟨le_max_right _ _, le_max_right _ _⟩

theorem Size.fitsIn_foldl_max (sizes : List (Size ℚ)) (first : Size ℚ) :
    first.FitsIn (sizes.foldl Size.max first) ∧
      ∀ size ∈ sizes, size.FitsIn (sizes.foldl Size.max first) := by
  induction sizes generalizing first with
  | nil => exact ⟨.refl first, fun size hsize => by cases hsize⟩
  | cons next rest ih =>
    obtain ⟨hstart, hrest⟩ := ih (first.max next)
    refine ⟨(first.fitsIn_max_left next).trans hstart, fun size hsize => ?_⟩
    rcases List.mem_cons.1 hsize with rfl | hsize
    · exact (first.fitsIn_max_right size).trans hstart
    · exact hrest size hsize

theorem fitsIn_cellSize (nodes : List String) (measured : Dictionary (Size ℚ))
    (config : UniformConfig ℚ) :
    config.defaultSize.FitsIn (cellSize nodes measured config) ∧
      ∀ id ∈ nodes, ∀ size, measured.get? id = some size →
        size.FitsIn (cellSize nodes measured config) := by
  obtain ⟨hdefault, hmeasured⟩ :=
    Size.fitsIn_foldl_max (nodes.filterMap measured.get?) config.defaultSize
  exact ⟨hdefault, fun id hid size hsize =>
    hmeasured size (List.mem_filterMap.2 ⟨id, hid, hsize⟩)⟩

/-! ## Cells -/

/-- There is a gap between the rectangles: at least the first one horizontally, or at least the
second one vertically. -/
def Rect.ApartBy (horizontal vertical : ℚ) (r s : Rect ℚ) : Prop :=
  r.right + horizontal ≤ s.x ∨ s.right + horizontal ≤ r.x ∨
    r.bottom + vertical ≤ s.y ∨ s.bottom + vertical ≤ r.y

theorem Rect.ApartBy.apart {horizontal vertical : ℚ} {r s : Rect ℚ}
    (h : ApartBy horizontal vertical r s) (hhorizontal : 0 ≤ horizontal)
    (hvertical : 0 ≤ vertical) : Apart 0 r s := by
  rcases h with h | h | h | h
  · exact .inl (by linarith)
  · exact .inr (.inl (by linarith))
  · exact .inr (.inr (.inl (by linarith)))
  · exact .inr (.inr (.inr (by linarith)))

namespace UniformConfig
variable {config : UniformConfig ℚ} {cell : Size ℚ}

def cellRect (config : UniformConfig ℚ) (cell : Size ℚ) (row column : Nat) : Rect ℚ where
  x := config.origin.x + column * (cell.width + config.horizontalSpacing)
  y := config.origin.y + row * (cell.height + config.verticalSpacing)
  width := cell.width
  height := cell.height

/-- Places at equal distances: what begins at one of them and is no longer than the distance ends in
front of every later one. -/
theorem end_le_of_lt {start extent gap : ℚ} (hpitch : 0 ≤ extent + gap) {i j : Nat} (hij : i < j) :
    start + i * (extent + gap) + extent + gap ≤ start + j * (extent + gap) := by
  have hnext : (i : ℚ) + 1 ≤ j := by exact_mod_cast hij
  have hplaces := mul_le_mul_of_nonneg_right hnext hpitch
  linarith

theorem cells_apart (hwidth : 0 ≤ cell.width + config.horizontalSpacing)
    (hheight : 0 ≤ cell.height + config.verticalSpacing) {row column row' column' : Nat}
    (hne : row ≠ row' ∨ column ≠ column') :
    Rect.ApartBy config.horizontalSpacing config.verticalSpacing
      (config.cellRect cell row column) (config.cellRect cell row' column') := by
  rcases hne with hrow | hcolumn
  · rcases Nat.lt_or_gt_of_ne hrow with hlt | hlt
    · exact .inr (.inr (.inl (end_le_of_lt hheight hlt)))
    · exact .inr (.inr (.inr (end_le_of_lt hheight hlt)))
  · rcases Nat.lt_or_gt_of_ne hcolumn with hlt | hlt
    · exact .inl (end_le_of_lt hwidth hlt)
    · exact .inr (.inl (end_le_of_lt hwidth hlt))

theorem cellRect_encloses (config : UniformConfig ℚ) {columns i : Nat} {size : Size ℚ}
    (h : size.FitsIn cell) :
    Rect.Encloses 0 (config.cellRect cell (i / columns) (i % columns))
      (.ofCorner (cellCorner columns cell config i) size) where
  left := le_of_eq (add_zero _)
  top := le_of_eq (add_zero _)
  right := by
    have hwidth := h.width
    change (config.cellRect cell (i / columns) (i % columns)).x + size.width + 0 ≤
      (config.cellRect cell (i / columns) (i % columns)).x + cell.width
    linarith
  bottom := by
    have hheight := h.height
    change (config.cellRect cell (i / columns) (i % columns)).y + size.height + 0 ≤
      (config.cellRect cell (i / columns) (i % columns)).y + cell.height
    linarith

end UniformConfig

theorem div_ne_or_mod_ne {i j : Nat} (hij : i ≠ j) (columns : Nat) :
    i / columns ≠ j / columns ∨ i % columns ≠ j % columns := by
  by_contra hsame
  push Not at hsame
  refine hij ?_
  rw [← Nat.div_add_mod i columns, ← Nat.div_add_mod j columns, hsame.1, hsame.2]

/-! ## Nodes in cells -/

/-- A uniform grid has at least one column, whatever the ratio is. In any number of columns, every
node lies within the cell of its row and column; a cell is as large as the standard size and all
measured nodes; the cells of two nodes are apart by the spacing, and the nodes do not overlap. -/
theorem uniform_cells_apart (nodes : List String) (hnodes : nodes.Nodup)
    (measured : Dictionary (Size ℚ)) (config : UniformConfig ℚ)
    (hhorizontal : 0 ≤ config.horizontalSpacing) (hvertical : 0 ≤ config.verticalSpacing)
    (hwidth : 0 < config.defaultSize.width) (hheight : 0 < config.defaultSize.height)
    (columns : Nat) (hcolumns : 1 ≤ columns) :
    let cell := cellSize nodes measured config
    let cellOf (i : Nat) := config.cellRect cell (i / columns) (i % columns)
    let a := arrangeInColumns columns nodes measured config
    (config.defaultSize.FitsIn cell ∧
      ∀ id ∈ nodes, ∀ size, measured.get? id = some size → size.FitsIn cell) ∧
    (∀ i id, nodes[i]? = some id → i % columns < columns ∧ ∃ rect, a.nodeRect? id = some rect ∧
      rect.size = (measured.get? id).getD cell ∧ (cellOf i).contains rect = true) ∧
    (∀ i j, i ≠ j → Rect.ApartBy config.horizontalSpacing config.verticalSpacing
      (cellOf i) (cellOf j)) ∧
    (∀ id id' rect rect', id ≠ id' → a.nodeRect? id = some rect → a.nodeRect? id' = some rect' →
      rect.overlaps rect' = false) ∧
    ∀ {α : Type} [Scalar α] (sizes : Dictionary (Size α)) (config : UniformConfig α),
      (∀ n, 1 ≤ columnCount n config.aspectRatio) ∧ arrangeUniform nodes sizes config =
        arrangeInColumns (columnCount nodes.length config.aspectRatio) nodes sizes config := by
  intro cell cellOf a
  obtain ⟨hdefault, hmeasured⟩ := fitsIn_cellSize nodes measured config
  have hpitch : 0 ≤ cell.width + config.horizontalSpacing ∧
      0 ≤ cell.height + config.verticalSpacing := by
    have hcellWidth := hdefault.width
    have hcellHeight := hdefault.height
    exact ⟨by linarith, by linarith⟩
  have hcells : ∀ i j, i ≠ j → Rect.ApartBy config.horizontalSpacing config.verticalSpacing
      (cellOf i) (cellOf j) := fun i j hij =>
    UniformConfig.cells_apart hpitch.1 hpitch.2 (div_ne_or_mod_ne hij columns)
  have hinside : ∀ i id, nodes[i]? = some id →
      Rect.Encloses 0 (cellOf i) (gridRect columns nodes measured config id i) := by
    intro i id hi
    refine UniformConfig.cellRect_encloses config ?_
    cases hsize : measured.get? id with
    | none => exact .refl cell
    | some size => exact hmeasured id (List.mem_of_getElem? hi) size hsize
  refine ⟨⟨hdefault, hmeasured⟩, ?_, hcells, ?_, fun sizes config =>
    ⟨fun n => one_le_columnCount n _, arrangeUniform_eq nodes sizes config⟩⟩
  · intro i id hi
    exact ⟨Nat.mod_lt i hcolumns, _, (nodeRect?_arrangeInColumns hnodes).2 ⟨i, hi, rfl⟩, rfl,
      (hinside i id hi).contains (le_refl 0)⟩
  · intro id id' rect rect' hne hrect hrect'
    obtain ⟨i, hi, rfl⟩ := (nodeRect?_arrangeInColumns hnodes).1 hrect
    obtain ⟨j, hj, rfl⟩ := (nodeRect?_arrangeInColumns hnodes).1 hrect'
    have hij : i ≠ j := by
      rintro rfl
      exact hne (Option.some.inj (hi.symm.trans hj))
    have hcellsApart := (hcells i j hij).apart hhorizontal hvertical
    have hapart := hcellsApart.of_encloses (hinside i id hi) (hinside j id' hj) (le_refl 0)
    exact hapart.not_overlaps (le_refl 0)

/-- One node that is wider than the standard size, and one that is smaller. -/
def cartAndShopSizes : Dictionary (Size ℚ) := .ofList [("Cart", ⟨300, 50⟩), ("Shop", ⟨40, 40⟩)]

theorem uniform_cells_apart_cartAndShop :
    let nodes := ["Cart", "Item", "Shop", "Till", "Lamp"]
    let config := UniformConfig.standard (α := ℚ)
    let a := arrangeInColumns 2 nodes cartAndShopSizes config
    nodes.Nodup ∧ 0 ≤ config.horizontalSpacing ∧ 0 ≤ config.verticalSpacing ∧
    0 < config.defaultSize.width ∧ 0 < config.defaultSize.height ∧ 1 ≤ 2 ∧
    cartAndShopSizes.get? "Cart" = some ⟨300, 50⟩ ∧
    (Size.mk 300 50).FitsIn (cellSize nodes cartAndShopSizes config) ∧
    ∃ cart till, a.nodeRect? "Cart" = some cart ∧ a.nodeRect? "Till" = some till ∧
      (config.cellRect (cellSize nodes cartAndShopSizes config) 1 1).contains till = true ∧
      cart.overlaps till = false := by
  intro nodes config a
  have hnodes : nodes.Nodup := by decide
  have hspacing : 0 ≤ config.horizontalSpacing ∧ 0 ≤ config.verticalSpacing := by decide
  have hsize : 0 < config.defaultSize.width ∧ 0 < config.defaultSize.height := by decide
  have hcart : cartAndShopSizes.get? "Cart" = some ⟨300, 50⟩ := by decide
  obtain ⟨⟨-, hmeasured⟩, hnode, -, hoverlaps, -⟩ := uniform_cells_apart nodes hnodes
    cartAndShopSizes config hspacing.1 hspacing.2 hsize.1 hsize.2 2 one_le_two
  obtain ⟨-, cart, hcartRect, -, -⟩ := hnode 0 "Cart" rfl
  obtain ⟨-, till, htillRect, -, hinside⟩ := hnode 3 "Till" rfl
  exact ⟨hnodes, hspacing.1, hspacing.2, hsize.1, hsize.2, one_le_two, hcart,
    hmeasured "Cart" (by decide) _ hcart, cart, till, hcartRect, htillRect, hinside,
    hoverlaps "Cart" "Till" cart till (by decide) hcartRect htillRect⟩

end RefAtlas.Layout
