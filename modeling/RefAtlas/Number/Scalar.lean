import RefAtlas.Number.Decimal

/-! # Coordinates and lengths

Every layout is computed over a type `α` of coordinates with the operations of `Scalar α`. The
program runs them on floating-point numbers of four bytes; read over exact numbers, the same
definitions say what the layouts are without rounding.

* `Scalar`: the operations, without laws.
* `Scalar.max`, `Scalar.min`, `Scalar.isFinite`: what follows from them. A maximum or minimum with
  no number is the other operand.
-/

namespace RefAtlas.Number
set_option autoImplicit false

class Scalar (α : Type) extends Add α, Sub α, Mul α, Div α, Neg α where
  ofNat : Nat → α
  /-- The coordinate nearest to a numeral. -/
  ofNumeral : Numeral → α
  /-- Strictly less, as the arithmetic compares. -/
  lt : α → α → Bool
  /-- Less or equal, as the arithmetic compares. -/
  le : α → α → Bool
  /-- Equal, as the arithmetic compares. -/
  eq : α → α → Bool
  /-- An order in which every two coordinates can be compared. -/
  totalLe : α → α → Bool
  /-- The greatest finite coordinate. -/
  largest : α
  /-- Whether the coordinate is less than infinity. -/
  isBelowInfinity : α → Bool
  /-- The size without its sign. -/
  abs : α → α
  sqrt : α → α
  /-- The length of the vector with the given coordinates. -/
  hypot : α → α → α
  roundToNat : α → Nat
  /-- What the coordinate is written as, with the choice between two equally near decimals. -/
  numeral : Tie → α → Numeral
  /-- The coordinate that a number in data stands for, unless that number is too large. -/
  ofLiteral? : Literal → Option α

namespace Scalar
variable {α : Type} [Scalar α]

def ofDecimal (d : Decimal) : α := ofNumeral (.finite d)

def zero : α := ofNat 0

def isUndefined (x : α) : Bool := !eq x x

def isFinite (x : α) : Bool := isBelowInfinity x && isBelowInfinity (-x)

def max (x y : α) : α := if isUndefined x then y else if lt x y then y else x

def min (x y : α) : α := if isUndefined x then y else if lt y x then y else x

/-- The sum of a list, from left to right. -/
def sum (xs : List α) : α := xs.foldl (· + ·) zero

def isPositive (x : α) : Bool := lt zero x

end Scalar

end RefAtlas.Number
