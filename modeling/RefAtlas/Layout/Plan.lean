import RefAtlas.Graph.Query
import RefAtlas.Layout.Force
import RefAtlas.Layout.Grouped
import RefAtlas.Layout.Uniform
import RefAtlas.Text.Blank
import RefAtlas.Text.Case

/-! # Plans and kinds of layout

* `Mode`: the kinds of layout, and the words for them.
* `Plan`: the nodes, groups and edges that are laid out; `Plan.ofGraph` takes all nodes of a graph,
  `Plan.connectedOnly` those with an edge.
* `Plan.members`: the nodes of each group with their sizes.
* `Plan.arrange`: the layout of a plan in a given mode.
-/

namespace RefAtlas.Layout
open RefAtlas.Graph RefAtlas.Number
set_option autoImplicit false

/-! ## Kinds of layout -/

inductive Mode where
  | grid
  /-- Packed grids of nodes in a packed grid of groups. -/
  | grouped
  | force
  | uniform
deriving DecidableEq, Repr

namespace Mode

def all : List Mode := [grid, grouped, force, uniform]

def name : Mode → String
  | grid => "grid"
  | grouped => "grouped"
  | force => "force"
  | uniform => "uniform"

/-- Reads a word for a mode; white space around it and ASCII case do not matter. -/
def ofText (text : String) : Except ConfigFault Mode :=
  let word := String.ofList (Text.lowerAscii (Text.trim text.toList))
  match all.find? fun m => m.name == word with
  | some m => .ok m
  | none => .error (.unknownMode word)

end Mode

/-! ## Plans -/

structure Plan where
  nodes : List String
  groups : Dictionary String
  edges : List Edge
  hidden : List String

namespace Plan

def groupsOf (g : ReferenceGraph) : Dictionary String :=
  Dictionary.ofList (g.nodes.toList.filterMap fun n => n.group.map fun group => (n.id, group))

def ofGraph (g : ReferenceGraph) : Plan := ⟨g.nodeIds, groupsOf g, g.edges, []⟩

/-- The nodes of a graph that have an edge; the others are hidden. -/
def connectedOnly (g : ReferenceGraph) : Plan :=
  let (connected, hidden) := g.partitionConnected
  ⟨connected, groupsOf g, g.edges, hidden⟩

end Plan

/-- What the group of nodes without a group is called. -/
def ungrouped : String := "ungrouped"

variable {α : Type}

def sizeOf (sizes : Dictionary (Size α)) (defaultSize : Size α) (id : String) : Size α :=
  (sizes.get? id).getD defaultSize

/-- The nodes of each group with their sizes, in the order of the first node of each group. The
nodes without a group form one of their own, whatever other groups are called. -/
def Plan.members (plan : Plan) (sizes : Dictionary (Size α)) (defaultSize : Size α) :
    List (GroupMembers α) :=
  let grouped := plan.nodes.map fun id => (plan.groups.get? id, id)
  (grouped.map Prod.fst).eraseDups.map fun group =>
    { name := group.getD ungrouped
      nodes := (grouped.filter fun n => n.1 == group).map fun n =>
        (n.2, sizeOf sizes defaultSize n.2) }

/-! ## Layouts -/

variable [Scalar α]

def Plan.arrangeGrid (plan : Plan) (sizes : Dictionary (Size α)) (config : LayoutConfig α) :
    Arrangement α :=
  let nodes := plan.nodes.map fun id => (id, sizeOf sizes config.uniform.defaultSize id)
  let packing := packNodes (nodes.map Prod.snd) config.grid
  .flat (Dictionary.ofList ((nodes.zip packing.positions).map fun (node, corner) =>
    (node.1, .ofCorner corner node.2)))

/-- The layout of a plan in a mode. Only simulated forces look at their settings again. -/
def Plan.arrange (plan : Plan) (mode : Mode) (sizes : Dictionary (Size α))
    (config : LayoutConfig α) : Except ConfigFault (Arrangement α) :=
  match mode with
  | .grid => .ok (plan.arrangeGrid sizes config)
  | .grouped =>
    .ok (arrangeGroups (plan.members sizes config.uniform.defaultSize) config.grid)
  | .force => do
    let layout ← simulate plan.nodes plan.edges config.force
    return layout.arrange sizes config.uniform.defaultSize config.uniform.origin
  | .uniform => .ok (arrangeUniform plan.nodes sizes config.uniform)

end RefAtlas.Layout
