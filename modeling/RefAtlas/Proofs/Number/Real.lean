import Mathlib.Algebra.BigOperators.Group.List.Basic
import Mathlib.Algebra.Order.Round
import Mathlib.Analysis.SpecialFunctions.Sqrt
import RefAtlas.Proofs.Number.Rational

/-! # Real coordinates

The instance `Scalar ℝ`, over which roots and lengths of vectors are exact. Sums, products, quotients
and comparisons are those of `ℝ`; numerals and literals are the rationals that they denote. A real
number is written as the greatest rational below it in steps that no number of four bytes can tell
apart.
-/

namespace RefAtlas.Number
set_option autoImplicit false

/-- The greatest multiple of the least positive number of four bytes that is not above the
number. -/
noncomputable def rationalBelow (x : ℝ) : ℚ := ⌊x * 2 ^ 149⌋ / 2 ^ 149

noncomputable instance : Scalar ℝ where
  ofNat n := n
  ofNumeral n := (Scalar.ofNumeral n : ℚ)
  lt x y := decide (x < y)
  le x y := decide (x ≤ y)
  eq x y := decide (x = y)
  totalLe x y := decide (x ≤ y)
  largest := (Scalar.largest : ℚ)
  isBelowInfinity _ := true
  abs x := |x|
  sqrt := Real.sqrt
  hypot x y := Real.sqrt (x * x + y * y)
  roundToNat x := (round x).toNat
  numeral tie x := Scalar.numeral tie (rationalBelow x)
  ofLiteral? l := (Scalar.ofLiteral? l : Option ℚ).map fun q => (q : ℝ)

namespace Scalar

@[simp] theorem ofNat_real (n : Nat) : (Scalar.ofNat n : ℝ) = n := rfl

theorem ofDecimal_real (d : Decimal) :
    (Scalar.ofDecimal d : ℝ) = ((Scalar.ofDecimal d : ℚ) : ℝ) := rfl

@[simp] theorem zero_real : (Scalar.zero : ℝ) = 0 := Nat.cast_zero

@[simp] theorem lt_real (x y : ℝ) : Scalar.lt x y = decide (x < y) := rfl

@[simp] theorem le_real (x y : ℝ) : Scalar.le x y = decide (x ≤ y) := rfl

@[simp] theorem isFinite_real (x : ℝ) : Scalar.isFinite x = true := rfl

theorem sum_real (xs : List ℝ) : Scalar.sum xs = xs.sum := by
  rw [Scalar.sum, zero_real, List.sum_eq_foldl]

end Scalar

end RefAtlas.Number
