import RefAtlas.Dictionary
import RefAtlas.Graph.Basic

/-! # Reading a graph

* `ReferenceGraph.edges`: the edges by ids, in increasing order.
* `ReferenceGraph.dependencies`, `ReferenceGraph.dependents`: the neighbours of a node, in increasing
  order.
* `ReferenceGraph.adjacency`: the targets of every node.
* `ReferenceGraph.partitionConnected`: the nodes with and without edges.
* `ReferenceGraph.groups`, `ReferenceGraph.membersOf`: groups in the order of their first node.
-/

namespace RefAtlas.Graph.ReferenceGraph
set_option autoImplicit false

def nodeIds (g : ReferenceGraph) : List String := g.nodes.toList.map Node.id

def idAt (g : ReferenceGraph) (i : Nat) : String := (g.nodes[i]?.map Node.id).getD ""

def nodeCount (g : ReferenceGraph) : Nat := g.nodes.size

def edgeCount (g : ReferenceGraph) : Nat := g.links.length

def isEmpty (g : ReferenceGraph) : Bool := g.nodes.isEmpty

def edges (g : ReferenceGraph) : List Edge :=
  (g.links.map fun l => Edge.mk (g.idAt l.1) (g.idAt l.2)).mergeSort Edge.le

def hasEdge (g : ReferenceGraph) (source target : String) : Bool :=
  match g.find? source, g.find? target with
  | some s, some t => g.links.contains (s, t)
  | _, _ => false

def sortIds (ids : List String) : List String := ids.mergeSort fun a b => a ≤ b

/-- The ids of the nodes that a node refers to, in increasing order. -/
def dependencies (g : ReferenceGraph) (id : String) : List String :=
  match g.find? id with
  | some i => sortIds ((g.links.filter fun l => l.1 == i).map fun l => g.idAt l.2)
  | none => []

/-- The ids of the nodes that refer to a node, in increasing order. -/
def dependents (g : ReferenceGraph) (id : String) : List String :=
  match g.find? id with
  | some i => sortIds ((g.links.filter fun l => l.2 == i).map fun l => g.idAt l.1)
  | none => []

def isConnected (g : ReferenceGraph) (id : String) : Bool :=
  match g.find? id with
  | some i => g.links.any fun l => l.1 == i || l.2 == i
  | none => false

/-- The nodes with an edge and those without, both in the order in which they were added. -/
def partitionConnected (g : ReferenceGraph) : List String × List String :=
  g.nodeIds.partition g.isConnected

def adjacency (g : ReferenceGraph) : Dictionary (List String) :=
  g.edges.foldl
    (fun d e => d.insert e.source ((d.get? e.source).getD [] ++ [e.target]))
    (Dictionary.ofList (g.nodeIds.map fun id => (id, [])))

/-- The groups, each once, in the order of their first node. -/
def groups (g : ReferenceGraph) : List String := (g.nodes.toList.filterMap Node.group).eraseDups

def membersOf (g : ReferenceGraph) (group : String) : List String :=
  (g.nodes.toList.filter fun n => n.group == some group).map Node.id

end RefAtlas.Graph.ReferenceGraph
