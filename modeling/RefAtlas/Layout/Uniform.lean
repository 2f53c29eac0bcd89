import RefAtlas.Layout.Arrangement
import RefAtlas.Layout.Config

/-! # Uniform grids

`arrangeUniform` lays nodes out row by row on a grid of equal cells. A cell is as large as the
largest measured node and the default size.
-/

namespace RefAtlas.Layout
open RefAtlas.Number
set_option autoImplicit false

variable {α : Type} [Scalar α]

/-- The number of columns with which `n` cells come near the wanted ratio; at least one. -/
def columnCount (n : Nat) (aspectRatio : α) : Nat :=
  max (Scalar.roundToNat (Scalar.sqrt (Scalar.ofNat n * aspectRatio))) 1

/-- The size of the cells: at least the default size and every measured size. -/
def cellSize (nodes : List String) (measured : Dictionary (Size α)) (config : UniformConfig α) :
    Size α :=
  (nodes.filterMap measured.get?).foldl Size.max config.defaultSize

def cellCorner (columns : Nat) (cell : Size α) (config : UniformConfig α) (i : Nat) : Point α where
  x := config.origin.x + Scalar.ofNat (i % columns) * (cell.width + config.horizontalSpacing)
  y := config.origin.y + Scalar.ofNat (i / columns) * (cell.height + config.verticalSpacing)

/-- Lays nodes out on a uniform grid. A node has its measured size, or else the size of a cell. -/
def arrangeUniform (nodes : List String) (measured : Dictionary (Size α))
    (config : UniformConfig α) : Arrangement α :=
  let columns := columnCount nodes.length config.aspectRatio
  let cell := cellSize nodes measured config
  .flat (Dictionary.ofList (nodes.zipIdx.map fun (id, i) =>
    (id, .ofCorner (cellCorner columns cell config i) ((measured.get? id).getD cell))))

end RefAtlas.Layout
