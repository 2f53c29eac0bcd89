import Std.Data.HashMap

/-! # Reference graphs

The nodes of a `ReferenceGraph` are known by their ids, each id by one node, and every ordered pair
of nodes is joined by at most one edge.

* `ReferenceGraph.addNode`, `ReferenceGraph.addEdge`, `ReferenceGraph.setGroup`,
  `ReferenceGraph.setProperties`: the four ways to change a graph. A call that fails, and an edge
  that is already there or joins a node to itself, changes nothing.
* `GraphFault`: why a call fails, and its wording.
-/

namespace RefAtlas.Graph
set_option autoImplicit false

structure Property where
  label : String
  value : String
deriving DecidableEq

structure Node where
  id : String
  group : Option String
  properties : List Property
deriving DecidableEq

def Node.ofId (id : String) : Node := ⟨id, none, []⟩

instance : Inhabited Node := ⟨.ofId ""⟩

/-- An edge from the node that refers to the node that is referred to. -/
structure Edge where
  source : String
  target : String
deriving DecidableEq

def Edge.le (e f : Edge) : Bool :=
  e.source < f.source || (e.source == f.source && e.target ≤ f.target)

inductive EdgeOutcome where
  | added
  | duplicate
  | selfLoop
deriving DecidableEq, Repr

inductive GraphFault where
  | duplicateNode (id : String)
  | nodeNotFound (id : String)
deriving DecidableEq

def GraphFault.message : GraphFault → String
  | duplicateNode id => "Duplicate node id: " ++ id
  | nodeNotFound id => "Node not found: " ++ id

/-- Nodes under distinct ids and the edges between them. -/
structure ReferenceGraph where
  /-- The nodes in the order in which they were added. -/
  nodes : Array Node
  index : Std.HashMap String Nat
  /-- The edges by the numbers of their ends, in the order in which they were added. -/
  links : List (Nat × Nat)

namespace ReferenceGraph

def empty : ReferenceGraph := ⟨#[], ∅, []⟩

instance : Inhabited ReferenceGraph := ⟨empty⟩

def find? (g : ReferenceGraph) (id : String) : Option Nat := g.index[id]?

def contains (g : ReferenceGraph) (id : String) : Bool := (g.find? id).isSome

def node? (g : ReferenceGraph) (id : String) : Option Node := (g.find? id).bind (g.nodes[·]?)

def findOrFault (g : ReferenceGraph) (id : String) : Except GraphFault Nat :=
  match g.find? id with
  | some i => .ok i
  | none => .error (.nodeNotFound id)

def addNode (g : ReferenceGraph) (node : Node) : Except GraphFault (ReferenceGraph × Nat) :=
  if g.contains node.id then .error (.duplicateNode node.id)
  else
    let number := g.nodes.size
    .ok ({ g with nodes := g.nodes.push node, index := g.index.insert node.id number }, number)

/-- Adds an edge between two nodes; a missing source counts before a missing target. -/
def addEdge (g : ReferenceGraph) (source target : String) :
    Except GraphFault (ReferenceGraph × EdgeOutcome) := do
  let s ← g.findOrFault source
  let t ← g.findOrFault target
  if s == t then return (g, .selfLoop)
  else if g.links.contains (s, t) then return (g, .duplicate)
  else return ({ g with links := g.links ++ [(s, t)] }, .added)

def modifyNode (g : ReferenceGraph) (id : String) (change : Node → Node) :
    Except GraphFault ReferenceGraph := do
  let i ← g.findOrFault id
  return { g with nodes := g.nodes.modify i change }

def setGroup (g : ReferenceGraph) (id group : String) : Except GraphFault ReferenceGraph :=
  g.modifyNode id fun n => { n with group := some group }

/-- Replaces the properties of a node, keeping at most `max` of them. -/
def setProperties (g : ReferenceGraph) (id : String) (properties : List Property) (max : Nat) :
    Except GraphFault ReferenceGraph :=
  g.modifyNode id fun n => { n with properties := properties.take max }

end ReferenceGraph

end RefAtlas.Graph
