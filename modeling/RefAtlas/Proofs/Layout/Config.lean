import RefAtlas.Layout.Config
import RefAtlas.Proofs.Number.Rational

/-! # Settings that are accepted

The checks of the settings stand one behind the other and stop at the first fault. So settings are
accepted exactly when every single check accepts them, and what later parts of a layout may rely on
is read off from the list of checks.

* `andThen_eq_ok_iff`: two checks, one behind the other.
* `ForceConfig.validate_eq_ok_iff`, `UniformConfig.validate_eq_ok_iff`,
  `BatchConfig.validate_eq_ok_iff`, `LayoutConfig.validate_eq_ok_iff`: the checks of each kind of
  settings.
-/

namespace RefAtlas.Layout
open RefAtlas.Number
set_option autoImplicit false

theorem andThen_eq_ok_iff {ε : Type} {check rest : Except ε Unit} :
    (do check; rest) = .ok () ↔ check = .ok () ∧ rest = .ok () := by
  cases check <;> simp [bind, Except.bind]

variable {α : Type} [Scalar α]

theorem ForceConfig.validate_eq_ok_iff {config : ForceConfig α} : config.validate = .ok () ↔
    checkDamping config.damping = .ok () ∧
    checkNonNegative "force.repulsion" config.repulsion = .ok () ∧
    checkNonNegative "force.attraction" config.attraction = .ok () ∧
    checkPositive "force.spread" config.spread = .ok () ∧
    ∀ limit ∈ config.maxSpeed, checkPositive "force.max_speed" limit = .ok () := by
  simp only [ForceConfig.validate, andThen_eq_ok_iff]
  cases config.maxSpeed <;> simp

theorem UniformConfig.validate_eq_ok_iff {config : UniformConfig α} : config.validate = .ok () ↔
    checkPositive "uniform.default_size.width" config.defaultSize.width = .ok () ∧
    checkPositive "uniform.default_size.height" config.defaultSize.height = .ok () ∧
    checkNonNegative "uniform.horizontal_spacing" config.horizontalSpacing = .ok () ∧
    checkNonNegative "uniform.vertical_spacing" config.verticalSpacing = .ok () ∧
    checkPositive "uniform.aspect_ratio" config.aspectRatio = .ok () := by
  simp only [UniformConfig.validate, andThen_eq_ok_iff]

theorem BatchConfig.validate_eq_ok_iff {config : BatchConfig} :
    config.validate = .ok () ↔ 0 < config.batchSize := by
  simp [BatchConfig.validate, Nat.pos_iff_ne_zero]

theorem LayoutConfig.validate_eq_ok_iff {config : LayoutConfig α} : config.validate = .ok () ↔
    config.grid.validate = .ok () ∧ config.force.validate = .ok () ∧
    config.uniform.validate = .ok () ∧ config.batch.validate = .ok () := by
  simp only [LayoutConfig.validate, andThen_eq_ok_iff]

theorem validate_standard_rat : (LayoutConfig.standard (α := ℚ)).validate = .ok () := by
  decide +kernel

end RefAtlas.Layout
