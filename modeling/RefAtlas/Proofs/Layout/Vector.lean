import Mathlib.Algebra.BigOperators.Group.List.Basic
import Mathlib.Analysis.Complex.Norm
import RefAtlas.Layout.Geometry
import RefAtlas.Proofs.Number.Real

/-! # Points over the reals

Over the reals, points with their sums and differences are a commutative group. So lists of points
can be summed up in any order.

* `Point.scaleHom`: scaling keeps sums.
* `Point.hypot_add_le`, `Point.hypot_scale`: the length of a sum and of a scaled vector.
* `sum_modify`: what a changed summand does to a sum.
-/

namespace RefAtlas.Layout
open RefAtlas.Number
set_option autoImplicit false

attribute [ext] Point

namespace Point

noncomputable instance : Add (Point ℝ) := ⟨Point.add⟩

noncomputable instance : Sub (Point ℝ) := ⟨Point.sub⟩

noncomputable instance : Neg (Point ℝ) := ⟨fun p => ⟨-p.x, -p.y⟩⟩

noncomputable instance : Zero (Point ℝ) := ⟨Point.zero⟩

@[simp] theorem add_x (p q : Point ℝ) : (p + q).x = p.x + q.x := rfl

@[simp] theorem add_y (p q : Point ℝ) : (p + q).y = p.y + q.y := rfl

@[simp] theorem sub_x (p q : Point ℝ) : (p - q).x = p.x - q.x := rfl

@[simp] theorem sub_y (p q : Point ℝ) : (p - q).y = p.y - q.y := rfl

@[simp] theorem neg_x (p : Point ℝ) : (-p).x = -p.x := rfl

@[simp] theorem neg_y (p : Point ℝ) : (-p).y = -p.y := rfl

@[simp] theorem zero_x : (0 : Point ℝ).x = 0 := Scalar.zero_real

@[simp] theorem zero_y : (0 : Point ℝ).y = 0 := Scalar.zero_real

noncomputable instance : AddCommGroup (Point ℝ) where
  add_assoc p q r := Point.ext (add_assoc _ _ _) (add_assoc _ _ _)
  zero_add p := Point.ext (by simp) (by simp)
  add_zero p := Point.ext (by simp) (by simp)
  add_comm p q := Point.ext (add_comm _ _) (add_comm _ _)
  neg_add_cancel p := Point.ext (by simp) (by simp)
  sub_eq_add_neg p q := Point.ext (sub_eq_add_neg _ _) (sub_eq_add_neg _ _)
  nsmul := nsmulRec
  zsmul := zsmulRec

noncomputable def scaleHom (factor : ℝ) : Point ℝ →+ Point ℝ where
  toFun p := p.scale factor
  map_zero' := Point.ext (by simp [Point.scale]) (by simp [Point.scale])
  map_add' p q := Point.ext (add_mul _ _ _) (add_mul _ _ _)

/-! ## Lengths -/

theorem hypot_eq_norm (p : Point ℝ) : p.hypot = ‖(⟨p.x, p.y⟩ : ℂ)‖ := by
  rw [Complex.norm_def, Complex.normSq_mk]
  rfl

theorem hypot_nonneg (p : Point ℝ) : 0 ≤ p.hypot := Real.sqrt_nonneg _

theorem hypot_zero : (0 : Point ℝ).hypot = 0 := by
  rw [hypot_eq_norm, zero_x, zero_y]
  exact norm_zero

theorem hypot_neg (p : Point ℝ) : (-p).hypot = p.hypot := by
  rw [hypot_eq_norm, hypot_eq_norm]
  exact norm_neg (⟨p.x, p.y⟩ : ℂ)

theorem hypot_add_le (p q : Point ℝ) : (p + q).hypot ≤ p.hypot + q.hypot := by
  rw [hypot_eq_norm, hypot_eq_norm, hypot_eq_norm]
  exact norm_add_le (⟨p.x, p.y⟩ : ℂ) ⟨q.x, q.y⟩

theorem hypot_scale (p : Point ℝ) {factor : ℝ} (h : 0 ≤ factor) :
    (p.scale factor).hypot = p.hypot * factor := by
  have hproduct : (⟨p.x * factor, p.y * factor⟩ : ℂ) = ⟨p.x, p.y⟩ * (factor : ℂ) := by
    apply Complex.ext <;> simp
  calc (p.scale factor).hypot = ‖(⟨p.x * factor, p.y * factor⟩ : ℂ)‖ := hypot_eq_norm _
    _ = ‖(⟨p.x, p.y⟩ : ℂ)‖ * ‖(factor : ℂ)‖ := by rw [hproduct, Complex.norm_mul]
    _ = p.hypot * factor := by rw [← hypot_eq_norm, Complex.norm_of_nonneg h]

end Point

theorem sum_modify {M : Type} [AddCommMonoid M] {l : List M} {i : Nat} (h : i < l.length) (v : M) :
    (l.modify i (· + v)).sum = l.sum + v := by
  induction l generalizing i with
  | nil => cases h
  | cons a l ih =>
    cases i with
    | zero => rw [List.modify_zero_cons, List.sum_cons, List.sum_cons, add_right_comm]
    | succ i =>
      rw [List.modify_succ_cons, List.sum_cons, ih (Nat.lt_of_succ_lt_succ h), List.sum_cons,
        add_assoc]

end RefAtlas.Layout
