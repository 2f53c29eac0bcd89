import RefAtlas.Data.Decode
import RefAtlas.Graph.Build
import RefAtlas.Layout.Batch
import RefAtlas.Layout.Session

/-! # Graphs, layouts and their settings as data

Every type of this kind has a `toValue`, which writes it as a record of its fields in the order of
their declaration, and, where it is read, a `decode`.

* Nodes of graphs, whose group and properties may be left out; adjacency lists.
* Settings, where a field that is not given has its standard value.
* Arrangements, where the field `kind` tells the two shapes apart and may stand anywhere.
* Reports of batches.
-/

namespace RefAtlas
open RefAtlas.Data RefAtlas.Number
set_option autoImplicit false

def Dictionary.toValue {β : Type} (item : β → Value) (d : Dictionary β) : Value :=
  .record (d.entries.map fun e => (e.1, item e.2))

def Dictionary.decode {β : Type} (item : Value → Except DecodeFault β) (v : Value) :
    Except DecodeFault (Dictionary β) :=
  (v.asEntries item).map Dictionary.ofList

/-! ## Graphs -/

namespace Graph

def Property.toValue (p : Property) : Value :=
  .record [("label", .text p.label), ("value", .text p.value)]

def Property.decode (v : Value) : Except DecodeFault Property := do
  let fields ← v.asFields .json ["label", "value"]
  let label ← required fields "label" Value.asText
  let value ← required fields "value" Value.asText
  return { label, value }

/-- A node as a record, without an absent group and without empty properties. -/
def Node.toValue (n : Node) : Value :=
  .record (("id", .text n.id) ::
    (n.group.toList.map fun group => ("group", .text group)) ++
    (if n.properties.isEmpty then []
      else [("properties", .list (n.properties.map Property.toValue))]))

def Node.decode (v : Value) : Except DecodeFault Node := do
  let fields ← v.asFields .json ["id", "group", "properties"]
  let id ← required fields "id" Value.asText
  let group ← optional fields "group" none (Value.asOption Value.asText)
  let properties ← optional fields "properties" [] (Value.asList Property.decode)
  return { id, group, properties }

namespace ReferenceGraph

def adjacencyFields (g : ReferenceGraph) : List (String × Value) :=
  [("nodes", .list (g.nodes.toList.map Node.toValue)), ("adjacency", g.adjacency.toValue .ofTexts)]

end ReferenceGraph

end Graph

/-! ## Geometry -/

namespace Layout

variable {α : Type} [Scalar α]

def Point.toValue (p : Point α) : Value := .record [("x", .ofScalar p.x), ("y", .ofScalar p.y)]

def Point.decode (dialect : Dialect) (v : Value) : Except DecodeFault (Point α) := do
  let fields ← v.asFields dialect ["x", "y"]
  let x ← required fields "x" Value.asScalar
  let y ← required fields "y" Value.asScalar
  return { x, y }

def Size.toValue (s : Size α) : Value :=
  .record [("width", .ofScalar s.width), ("height", .ofScalar s.height)]

def Size.decode (dialect : Dialect) (v : Value) : Except DecodeFault (Size α) := do
  let fields ← v.asFields dialect ["width", "height"]
  let width ← required fields "width" Value.asScalar
  let height ← required fields "height" Value.asScalar
  return { width, height }

def Rect.toValue (r : Rect α) : Value :=
  .record [("x", .ofScalar r.x), ("y", .ofScalar r.y), ("width", .ofScalar r.width),
    ("height", .ofScalar r.height)]

def Rect.decode (v : Value) : Except DecodeFault (Rect α) := do
  let fields ← v.asFields .json ["x", "y", "width", "height"]
  let x ← required fields "x" Value.asScalar
  let y ← required fields "y" Value.asScalar
  let width ← required fields "width" Value.asScalar
  let height ← required fields "height" Value.asScalar
  return { x, y, width, height }

/-! ## Arrangements -/

def NodeBox.toValue (n : NodeBox α) : Value :=
  .record [("id", .text n.id), ("rect", n.rect.toValue)]

def NodeBox.decode (v : Value) : Except DecodeFault (NodeBox α) := do
  let fields ← v.asFields .json ["id", "rect"]
  let id ← required fields "id" Value.asText
  let rect ← required fields "rect" Rect.decode
  return { id, rect }

def GroupBox.toValue (g : GroupBox α) : Value :=
  .record [("name", .text g.name), ("rect", g.rect.toValue),
    ("nodes", .list (g.nodes.map NodeBox.toValue))]

def GroupBox.decode (v : Value) : Except DecodeFault (GroupBox α) := do
  let fields ← v.asFields .json ["name", "rect", "nodes"]
  let name ← required fields "name" Value.asText
  let rect ← required fields "rect" Rect.decode
  let nodes ← required fields "nodes" (Value.asList NodeBox.decode)
  return { name, rect, nodes }

inductive Shape where
  | grouped
  | flat
deriving DecidableEq

def Shape.choices : List (String × Shape) := [("grouped", .grouped), ("flat", .flat)]

namespace Arrangement

def toValue : Arrangement α → Value
  | .grouped groups size =>
    .record [("kind", .text "grouped"), ("groups", .list (groups.map GroupBox.toValue)),
      ("size", size.toValue)]
  | .flat nodes => .record [("kind", .text "flat"), ("nodes", nodes.toValue Rect.toValue)]

def decodeShape (shape : Shape) (v : Value) : Except DecodeFault (Arrangement α) := do
  match shape with
  | .grouped =>
    let fields ← v.asFields .json ["groups", "size"]
    let groups ← required fields "groups" (Value.asList GroupBox.decode)
    let size ← required fields "size" (Size.decode .json)
    return .grouped groups size
  | .flat =>
    let fields ← v.asFields .json ["nodes"]
    let nodes ← required fields "nodes" (Dictionary.decode Rect.decode)
    return .flat nodes

/-- Reads an arrangement. The shape is named by the field `kind` of a record, or by the first item of
a list. -/
def decode (v : Value) : Except DecodeFault (Arrangement α) :=
  let shapeOf (kind : Value) : Except DecodeFault Shape :=
    match kind with
    | .text _ => kind.asChoice .json Shape.choices
    | _ => .error .unexpected
  match v with
  | .record fields =>
    match fields.filter fun f => f.1 == "kind" with
    | [] => .error (.missing "kind")
    | [kind] => do
      let shape ← shapeOf kind.2
      decodeShape shape (.record (fields.filter fun f => f.1 != "kind"))
    | _ => .error (.repeated "kind")
  | .list (kind :: rest) => do
    let shape ← shapeOf kind
    decodeShape shape (.list rest)
  | .list [] => .error (.missing "kind")
  | _ => .error .unexpected

end Arrangement

/-! ## Settings -/

def Objective.choices : List (String × Objective) :=
  [("min_area", .minArea), ("square_aspect", .squareAspect)]

def Objective.toValue : Objective → Value
  | .minArea => .text "min_area"
  | .squareAspect => .text "square_aspect"

def Objective.decode (dialect : Dialect) (v : Value) : Except DecodeFault Objective :=
  v.asChoice dialect choices

namespace GridConfig

def toValue (c : GridConfig α) : Value :=
  .record [("padding", .ofScalar c.padding), ("group_padding", .ofScalar c.groupPadding),
    ("objective", c.objective.toValue), ("group_objective", c.groupObjective.toValue)]

def decode (dialect : Dialect) (v : Value) : Except DecodeFault (GridConfig α) := do
  let fields ← v.asFields dialect ["padding", "group_padding", "objective", "group_objective"]
  let padding ← optional fields "padding" standard.padding Value.asScalar
  let groupPadding ← optional fields "group_padding" standard.groupPadding Value.asScalar
  let objective ← optional fields "objective" (standard (α := α)).objective
    (Objective.decode dialect)
  let groupObjective ← optional fields "group_objective" (standard (α := α)).groupObjective
    (Objective.decode dialect)
  return { padding, groupPadding, objective, groupObjective }

end GridConfig

namespace ForceConfig

def toValue (c : ForceConfig α) : Value :=
  .record [("steps", .ofNat c.steps), ("repulsion", .ofScalar c.repulsion),
    ("attraction", .ofScalar c.attraction), ("damping", .ofScalar c.damping),
    ("max_speed", .ofOption (c.maxSpeed.map .ofScalar)), ("seed", .ofOption (c.seed.map .ofNat)),
    ("spread", .ofScalar c.spread)]

def decode (dialect : Dialect) (v : Value) : Except DecodeFault (ForceConfig α) := do
  let fields ← v.asFields dialect
    ["steps", "repulsion", "attraction", "damping", "max_speed", "seed", "spread"]
  let steps ← optional fields "steps" (standard (α := α)).steps Value.asNatural
  let repulsion ← optional fields "repulsion" standard.repulsion Value.asScalar
  let attraction ← optional fields "attraction" standard.attraction Value.asScalar
  let damping ← optional fields "damping" standard.damping Value.asScalar
  let maxSpeed ← optional fields "max_speed" standard.maxSpeed (Value.asOption Value.asScalar)
  let seed ← optional fields "seed" none (Value.asOption Value.asNatural)
  let spread ← optional fields "spread" standard.spread Value.asScalar
  return { steps, repulsion, attraction, damping, maxSpeed, seed, spread }

end ForceConfig

namespace UniformConfig

def toValue (c : UniformConfig α) : Value :=
  .record [("default_size", c.defaultSize.toValue),
    ("horizontal_spacing", .ofScalar c.horizontalSpacing),
    ("vertical_spacing", .ofScalar c.verticalSpacing), ("origin", c.origin.toValue),
    ("aspect_ratio", .ofScalar c.aspectRatio)]

def decode (dialect : Dialect) (v : Value) : Except DecodeFault (UniformConfig α) := do
  let fields ← v.asFields dialect
    ["default_size", "horizontal_spacing", "vertical_spacing", "origin", "aspect_ratio"]
  let defaultSize ← optional fields "default_size" standard.defaultSize (Size.decode dialect)
  let horizontalSpacing ←
    optional fields "horizontal_spacing" standard.horizontalSpacing Value.asScalar
  let verticalSpacing ← optional fields "vertical_spacing" standard.verticalSpacing Value.asScalar
  let origin ← optional fields "origin" standard.origin (Point.decode dialect)
  let aspectRatio ← optional fields "aspect_ratio" standard.aspectRatio Value.asScalar
  return { defaultSize, horizontalSpacing, verticalSpacing, origin, aspectRatio }

end UniformConfig

namespace BatchConfig

def toValue (c : BatchConfig) : Value :=
  .record [("max_nodes", .ofNat c.maxNodes), ("batch_size", .ofNat c.batchSize)]

def decode (dialect : Dialect) (v : Value) : Except DecodeFault BatchConfig := do
  let fields ← v.asFields dialect ["max_nodes", "batch_size"]
  let maxNodes ← optional fields "max_nodes" standard.maxNodes Value.asNatural
  let batchSize ← optional fields "batch_size" standard.batchSize Value.asNatural
  return { maxNodes, batchSize }

end BatchConfig

namespace LayoutConfig

def toValue (c : LayoutConfig α) : Value :=
  .record [("grid", c.grid.toValue), ("force", c.force.toValue), ("uniform", c.uniform.toValue),
    ("batch", c.batch.toValue), ("max_properties", .ofNat c.maxProperties)]

def decode (dialect : Dialect) (v : Value) : Except DecodeFault (LayoutConfig α) := do
  let fields ← v.asFields dialect ["grid", "force", "uniform", "batch", "max_properties"]
  let grid ← optional fields "grid" .standard (GridConfig.decode dialect)
  let force ← optional fields "force" .standard (ForceConfig.decode dialect)
  let uniform ← optional fields "uniform" .standard (UniformConfig.decode dialect)
  let batch ← optional fields "batch" .standard (BatchConfig.decode dialect)
  let maxProperties ← optional fields "max_properties" (standard (α := α)).maxProperties
    Value.asNatural
  return { grid, force, uniform, batch, maxProperties }

end LayoutConfig

/-! ## Reports of batches -/

namespace BatchRun

/-- A duration in units of which `10 ^ places` nanoseconds make one. -/
def duration (places : Nat) (nanoseconds : Nat) : Value :=
  .number (.real (.finite (Decimal.normalize ⟨false, nanoseconds, -places⟩)))

/-- The mean of durations in milliseconds; zero if there are none. -/
def meanDuration (durations : List Nat) : Value :=
  duration 6 (durations.foldl (· + ·) 0 / durations.length)

def batchReport (number size : Nat) (time : Option BatchTime) : Value :=
  let show_ (f : BatchTime → Nat) : Value := .ofOption (time.map fun t => duration 6 (f t))
  .record [("batch_number", .ofNat number), ("nodes_in_batch", .ofNat size),
    ("started_at_ms", show_ BatchTime.startedAt), ("creation_ms", show_ BatchTime.creation),
    ("layout_ms", show_ BatchTime.layout), ("total_ms", show_ fun t => t.creation + t.layout)]

/-- The report of a run. Durations that nobody took are null. -/
def report {α : Type} (run : BatchRun α) (timing : Option Timing) : Value :=
  let show_ (f : Timing → Value) : Value := .ofOption (timing.map f)
  .record [
    ("metrics", .list (run.batchSizes.zipIdx.map fun (size, i) =>
      batchReport (i + 1) size (timing.bind fun t => t.batches[i]?))),
    ("summary", .record [
      ("total_nodes", .ofNat run.totalNodes), ("batches", .ofNat run.batchSizes.length),
      ("total_seconds", show_ fun t => duration 9 t.total),
      ("avg_ms_per_node", show_ fun t => duration 6 (t.total / run.totalNodes)),
      ("avg_creation_ms", show_ fun t => meanDuration (t.batches.map BatchTime.creation)),
      ("avg_layout_ms", show_ fun t => meanDuration (t.batches.map BatchTime.layout))])]

end BatchRun

end Layout

end RefAtlas
