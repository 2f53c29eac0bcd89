import RefAtlas.Number.Scalar

/-! # Points, sizes and rectangles

Coordinates grow to the right and downwards, and a rectangle stands at its top left corner.
Everything is computed over a type of coordinates with the operations of `Scalar`.
-/

namespace RefAtlas.Layout
open RefAtlas.Number
set_option autoImplicit false

structure Point (α : Type) where
  x : α
  y : α
deriving DecidableEq

structure Size (α : Type) where
  width : α
  height : α
deriving DecidableEq

structure Rect (α : Type) where
  x : α
  y : α
  width : α
  height : α
deriving DecidableEq

variable {α : Type} [Scalar α]

namespace Point

def zero : Point α := ⟨Scalar.zero, Scalar.zero⟩

def add (p q : Point α) : Point α := ⟨p.x + q.x, p.y + q.y⟩

def sub (p q : Point α) : Point α := ⟨p.x - q.x, p.y - q.y⟩

def scale (p : Point α) (factor : α) : Point α := ⟨p.x * factor, p.y * factor⟩

def hypot (p : Point α) : α := Scalar.hypot p.x p.y

end Point

namespace Size

def zero : Size α := ⟨Scalar.zero, Scalar.zero⟩

def area (s : Size α) : α := s.width * s.height

/-- Whether both extents are positive, as those of a measured node are. -/
def isMeasured (s : Size α) : Bool := Scalar.isPositive s.width && Scalar.isPositive s.height

def max (s t : Size α) : Size α := ⟨Scalar.max s.width t.width, Scalar.max s.height t.height⟩

end Size

namespace Rect

def ofCorner (corner : Point α) (size : Size α) : Rect α :=
  ⟨corner.x, corner.y, size.width, size.height⟩

def corner (r : Rect α) : Point α := ⟨r.x, r.y⟩

def size (r : Rect α) : Size α := ⟨r.width, r.height⟩

def right (r : Rect α) : α := r.x + r.width

def bottom (r : Rect α) : α := r.y + r.height

def translate (r : Rect α) (offset : Point α) : Rect α := ofCorner (r.corner.add offset) r.size

/-- Whether the second rectangle lies within the first; their sides may touch. -/
def contains (r s : Rect α) : Bool :=
  Scalar.le r.x s.x && Scalar.le r.y s.y && Scalar.le s.right r.right &&
    Scalar.le s.bottom r.bottom

/-- Whether the rectangles have a common area; touching sides are none. -/
def overlaps (r s : Rect α) : Bool :=
  Scalar.lt r.x s.right && Scalar.lt s.x r.right && Scalar.lt r.y s.bottom &&
    Scalar.lt s.y r.bottom

end Rect

end RefAtlas.Layout
