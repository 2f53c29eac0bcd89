import RefAtlas.Layout.Geometry
import RefAtlas.Number.Style
import RefAtlas.Text.Quoted

/-! # Settings of layouts

* `GridConfig`, `ForceConfig`, `UniformConfig`, `BatchConfig`: the settings of each kind of layout;
  `LayoutConfig`: all of them. Each has standard values.
* `ConfigFault`: what can be wrong with settings, and its wording.
* `validate`: the settings of each kind are looked at in the order of their fields, and the first
  fault counts.
-/

namespace RefAtlas.Layout
open RefAtlas.Number
set_option autoImplicit false

inductive ConfigFault where
  | negative (setting : String) (value : Numeral)
  | notPositive (setting : String) (value : Numeral)
  /-- A damping that does not lie between zero and one. -/
  | damping (value : Numeral)
  | emptyBatches
  | unknownMode (word : String)
deriving DecidableEq

def ConfigFault.message : ConfigFault → String
  | negative setting value =>
    setting ++ " must be a finite value >= 0 (got " ++ value.message ++ ")"
  | notPositive setting value =>
    setting ++ " must be a finite value > 0 (got " ++ value.message ++ ")"
  | damping value => "force.damping must be in (0, 1) (got " ++ value.message ++ ")"
  | emptyBatches => "batch.batch_size must be > 0"
  | unknownMode word =>
    "unknown layout mode " ++ Text.quoted word ++ " (expected grid, grouped, force or uniform)"

variable {α : Type} [Scalar α]

def checkNonNegative (setting : String) (value : α) : Except ConfigFault Unit :=
  if !Scalar.isFinite value || Scalar.lt value Scalar.zero then
    .error (.negative setting (Scalar.numeral messageStyle.tie value))
  else .ok ()

def checkPositive (setting : String) (value : α) : Except ConfigFault Unit :=
  if !Scalar.isFinite value || Scalar.le value Scalar.zero then
    .error (.notPositive setting (Scalar.numeral messageStyle.tie value))
  else .ok ()

/-- What the packing of a grid makes as small as possible. -/
inductive Objective where
  | minArea
  | squareAspect
deriving DecidableEq, Repr

/-! ## Grids -/

structure GridConfig (α : Type) where
  /-- The gap between and around the nodes of a group. -/
  padding : α
  groupPadding : α
  objective : Objective
  groupObjective : Objective

def GridConfig.standard : GridConfig α where
  padding := Scalar.ofNat 20
  groupPadding := Scalar.ofNat 50
  objective := .squareAspect
  groupObjective := .minArea

def GridConfig.validate (config : GridConfig α) : Except ConfigFault Unit := do
  checkNonNegative "grid.padding" config.padding
  checkNonNegative "grid.group_padding" config.groupPadding

/-! ## Simulated forces -/

structure ForceConfig (α : Type) where
  steps : Nat
  repulsion : α
  attraction : α
  /-- The share of the speed that is left after each step. -/
  damping : α
  /-- The greatest speed of a node, if it is bounded. -/
  maxSpeed : Option α
  /-- The seed of the placement at the start, if it is to be repeatable. -/
  seed : Option Nat
  /-- The side of the square in which nodes are placed at the start. -/
  spread : α

def ForceConfig.standard : ForceConfig α where
  steps := 500
  repulsion := Scalar.ofNat 1000
  attraction := Scalar.ofDecimal ⟨false, 5, -2⟩
  damping := Scalar.ofDecimal ⟨false, 85, -2⟩
  maxSpeed := some (Scalar.ofNat 50)
  seed := none
  spread := Scalar.ofNat 400

def checkDamping (value : α) : Except ConfigFault Unit :=
  if Scalar.lt Scalar.zero value && Scalar.lt value (Scalar.ofNat 1) then .ok ()
  else .error (.damping (Scalar.numeral messageStyle.tie value))

def ForceConfig.validate (config : ForceConfig α) : Except ConfigFault Unit := do
  checkDamping config.damping
  checkNonNegative "force.repulsion" config.repulsion
  checkNonNegative "force.attraction" config.attraction
  checkPositive "force.spread" config.spread
  match config.maxSpeed with
  | some speed => checkPositive "force.max_speed" speed
  | none => .ok ()

/-! ## Uniform grids -/

structure UniformConfig (α : Type) where
  /-- The size of nodes that are not measured, and the least size of a cell. -/
  defaultSize : Size α
  horizontalSpacing : α
  verticalSpacing : α
  origin : Point α
  aspectRatio : α

def UniformConfig.standard : UniformConfig α where
  defaultSize := ⟨Scalar.ofNat 100, Scalar.ofNat 200⟩
  horizontalSpacing := Scalar.ofNat 50
  verticalSpacing := Scalar.ofNat 50
  origin := ⟨Scalar.ofNat 100, Scalar.ofNat 100⟩
  aspectRatio := Scalar.ofDecimal ⟨false, 1618, -3⟩

def UniformConfig.validate (config : UniformConfig α) : Except ConfigFault Unit := do
  checkPositive "uniform.default_size.width" config.defaultSize.width
  checkPositive "uniform.default_size.height" config.defaultSize.height
  checkNonNegative "uniform.horizontal_spacing" config.horizontalSpacing
  checkNonNegative "uniform.vertical_spacing" config.verticalSpacing
  checkPositive "uniform.aspect_ratio" config.aspectRatio

/-! ## Batches -/

structure BatchConfig where
  /-- The number of nodes that are laid out at most. -/
  maxNodes : Nat
  batchSize : Nat
deriving DecidableEq

def BatchConfig.standard : BatchConfig := ⟨10000, 2500⟩

def BatchConfig.validate (config : BatchConfig) : Except ConfigFault Unit :=
  if config.batchSize == 0 then .error .emptyBatches else .ok ()

def ceilDiv (n k : Nat) : Nat := n / k + if n % k == 0 then 0 else 1

def BatchConfig.batchCount (config : BatchConfig) : Nat :=
  if config.batchSize == 0 then 0 else ceilDiv config.maxNodes config.batchSize

/-! ## All settings -/

structure LayoutConfig (α : Type) where
  grid : GridConfig α
  force : ForceConfig α
  uniform : UniformConfig α
  batch : BatchConfig
  maxProperties : Nat

def LayoutConfig.standard : LayoutConfig α where
  grid := .standard
  force := .standard
  uniform := .standard
  batch := .standard
  maxProperties := 5

def LayoutConfig.validate (config : LayoutConfig α) : Except ConfigFault Unit := do
  config.grid.validate
  config.force.validate
  config.uniform.validate
  config.batch.validate

end RefAtlas.Layout
