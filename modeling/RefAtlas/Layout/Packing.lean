import RefAtlas.Chunk
import RefAtlas.Layout.Config

/-! # Packing a list of sizes into a grid

The sizes are sorted by descending area and put row by row into grids of `1`, `2`, … rows, up to the
root of their number. A column is as wide as its widest item, a row as high as its highest one, with
a padding between and around them. The grid with the best score is taken, the one with the fewest
rows among equal ones.

* `Grid`: the tracks of one candidate; `Grid.ofRows` computes them from the items of each row.
* `Score`: how good a candidate is.
* `pack`: the chosen grid, and the place of each item in the order of the input.
-/

namespace RefAtlas.Layout
open RefAtlas.Number
set_option autoImplicit false

variable {α : Type} [Scalar α]

/-- The least `r` with `n ≤ r * r`. -/
def ceilSqrt (n : Nat) : Nat := ((List.range (n + 1)).find? fun r => n ≤ r * r).getD n

/-! ## The grids to choose from -/

/-- An item of the input: its place there and its size. -/
structure Item (α : Type) where
  index : Nat
  size : Size α

/-- The rank of an area. One that is no number is above all others if a side is no number either, and
below all others if both sides are: then one is infinite and the other zero. -/
def areaRank (size : Size α) : Nat :=
  if Scalar.isUndefined size.width || Scalar.isUndefined size.height then 2
  else if Scalar.isUndefined size.area then 0
  else 1

def comesBefore (a b : Size α) : Bool :=
  areaRank b < areaRank a || (areaRank b == areaRank a && Scalar.totalLe b.area a.area)

/-- The items in the order in which they are put into grids: by descending area, items of equal
area in the order of the input. -/
def sortedItems (sizes : List (Size α)) : List (Item α) :=
  (sizes.zipIdx.map fun s => Item.mk s.2 s.1).mergeSort fun a b => comesBefore a.size b.size

/-- The tracks of a grid, and the items in its cells. -/
structure Grid (α : Type) where
  columns : Nat
  /-- The items of each row; only the last row may be shorter than the others. -/
  rows : List (List (Item α))
  columnWidths : List α
  rowHeights : List α

/-- The widths of columns that have to hold one more row. -/
def widen : List α → List (Item α) → List α
  | w :: ws, item :: row => Scalar.max w item.size.width :: widen ws row
  | ws, [] => ws
  | [], _ :: _ => []

def rowHeight (row : List (Item α)) : α :=
  row.foldl (fun h item => Scalar.max h item.size.height) Scalar.zero

def Grid.ofRows (columns : Nat) (rows : List (List (Item α))) : Grid α where
  columns := columns
  rows := rows
  columnWidths := rows.foldl widen (List.replicate columns Scalar.zero)
  rowHeights := rows.map rowHeight

/-- The grid of as many columns as are needed for at most `rows` rows. -/
def gridOf (items : List (Item α)) (rows : Nat) : Grid α :=
  let columns := ceilDiv items.length rows
  .ofRows columns (chunks columns items)

def tracksExtent (extents : List α) (padding : α) : α :=
  Scalar.sum extents + padding * Scalar.ofNat (extents.length + 1)

def Grid.size (g : Grid α) (padding : α) : Size α :=
  ⟨tracksExtent g.columnWidths padding, tracksExtent g.rowHeights padding⟩

/-! ## The choice -/

/-- How good a grid is; the less the better. -/
inductive Score (α : Type) where
  | value (x : α)
  | unbounded

def Score.better : Score α → Score α → Bool
  | .value x, .value y => Scalar.lt x y
  | .value x, .unbounded => Scalar.isBelowInfinity x
  | .unbounded, _ => false

/-- The score of a size. A box without height but with a width is as far from a square as can be,
an empty box is a square. -/
def Objective.score (objective : Objective) (size : Size α) : Score α :=
  match objective with
  | .minArea => .value size.area
  | .squareAspect =>
    if Scalar.isPositive size.height then
      .value (Scalar.abs (size.width / size.height - Scalar.ofNat 1))
    else if Scalar.isPositive size.width then .unbounded
    else .value Scalar.zero

/-- The better of two grids, the first one if neither is. -/
def betterGrid (padding : α) (objective : Objective) (best other : Grid α) : Grid α :=
  if (objective.score (other.size padding)).better (objective.score (best.size padding)) then other
  else best

/-- The best grid for items, the one of fewest rows among equal ones. -/
def bestGrid (items : List (Item α)) (padding : α) (objective : Objective) : Grid α :=
  ((List.range' 2 (ceilSqrt items.length - 1)).map (gridOf items)).foldl
    (betterGrid padding objective) (gridOf items 1)

/-! ## The result -/

structure Packing (α : Type) where
  /-- The top left corner of each item, in the order of the input. -/
  positions : List (Point α)
  size : Size α
  rows : Nat
  columns : Nat

/-- The start of each track: the padding, then each extent and the padding behind it. -/
def offsets (padding : α) : (cursor : α) → List α → List α
  | _, [] => []
  | cursor, extent :: rest => cursor :: offsets padding (cursor + (extent + padding)) rest

def Grid.corners (g : Grid α) (padding : α) : List (Nat × Point α) :=
  let xs := offsets padding padding g.columnWidths
  let ys := offsets padding padding g.rowHeights
  (g.rows.zip ys).flatMap fun (row, y) => (row.zip xs).map fun (item, x) => (item.index, ⟨x, y⟩)

def pack (sizes : List (Size α)) (padding : α) (objective : Objective) : Packing α :=
  if sizes.isEmpty then ⟨[], .zero, 0, 0⟩
  else
    let best := bestGrid (sortedItems sizes) padding objective
    { positions :=
        ((best.corners padding).mergeSort fun a b => a.1 ≤ b.1).map Prod.snd
      size := best.size padding
      rows := best.rows.length
      columns := best.columns }

def packNodes (sizes : List (Size α)) (config : GridConfig α) : Packing α :=
  pack sizes config.padding config.objective

def packGroups (sizes : List (Size α)) (config : GridConfig α) : Packing α :=
  pack sizes config.groupPadding config.groupObjective

end RefAtlas.Layout
