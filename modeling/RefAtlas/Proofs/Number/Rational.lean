import Mathlib.Algebra.BigOperators.Group.List.Basic
import Mathlib.Algebra.Order.Round
import Mathlib.Data.Rat.Floor
import Mathlib.Data.Rat.Sqrt
import RefAtlas.Number.Shortest
import RefAtlas.Number.Scalar

/-! # Exact coordinates

The instance `Scalar ℚ`, over which a layout says where everything stands before any rounding.
Sums, products, quotients and comparisons are those of `ℚ`; no number is infinite, and every number
equals itself. Roots are exact for squares only, and no layout on a grid takes one. A number is
written as the nearest one of four bytes is.
-/

namespace RefAtlas.Number
set_option autoImplicit false

namespace Rational

def ofRatio (negative : Bool) (ratio : Nat × Nat) : ℚ :=
  if negative then -(ratio.1 / ratio.2) else ratio.1 / ratio.2

/-- The bits of the number of four bytes that is nearest. -/
def singleBits (x : ℚ) : Nat :=
  let bits := BinaryFormat.single.encode x.num.natAbs x.den
  if x < 0 then BinaryFormat.single.signBit + bits else bits

end Rational

open Rational

instance : Scalar ℚ where
  ofNat n := n
  ofNumeral
    | .finite d => ofRatio d.negative d.ratio
    | _ => 0
  lt x y := decide (x < y)
  le x y := decide (x ≤ y)
  eq x y := decide (x = y)
  totalLe x y := decide (x ≤ y)
  largest := ofRatio false (BinaryFormat.single.ratio (BinaryFormat.single.infinity - 1))
  isBelowInfinity _ := true
  abs x := |x|
  sqrt := Rat.sqrt
  hypot x y := Rat.sqrt (x * x + y * y)
  roundToNat x := (round x).toNat
  numeral tie x := BinaryFormat.single.numeral tie (singleBits x)
  ofLiteral?
    | .integer n => some n
    | .real (.finite d) => some (ofRatio d.negative d.ratio)
    | .real _ => none

namespace Scalar

@[simp] theorem ofNat_rat (n : Nat) : (Scalar.ofNat n : ℚ) = n := rfl

@[simp] theorem zero_rat : (Scalar.zero : ℚ) = 0 := Nat.cast_zero

@[simp] theorem lt_rat (x y : ℚ) : Scalar.lt x y = decide (x < y) := rfl

@[simp] theorem le_rat (x y : ℚ) : Scalar.le x y = decide (x ≤ y) := rfl

@[simp] theorem isUndefined_rat (x : ℚ) : Scalar.isUndefined x = false := by
  have heq : Scalar.eq x x = true := decide_eq_true rfl
  rw [Scalar.isUndefined, heq, Bool.not_true]

theorem max_rat (x y : ℚ) : Scalar.max x y = Max.max x y := by
  rw [Scalar.max, isUndefined_rat, if_neg Bool.false_ne_true, lt_rat]
  rcases lt_or_ge x y with h | h
  · rw [if_pos (decide_eq_true h), max_eq_right h.le]
  · rw [if_neg (by simpa using h), max_eq_left h]

theorem min_rat (x y : ℚ) : Scalar.min x y = Min.min x y := by
  rw [Scalar.min, isUndefined_rat, if_neg Bool.false_ne_true, lt_rat]
  rcases lt_or_ge y x with h | h
  · rw [if_pos (decide_eq_true h), min_eq_right h.le]
  · rw [if_neg (by simpa using h), min_eq_left h]

theorem sum_rat (xs : List ℚ) : Scalar.sum xs = xs.sum := by
  rw [Scalar.sum, zero_rat, List.sum_eq_foldl]

end Scalar

end RefAtlas.Number
