import RefAtlas.Dictionary
import RefAtlas.Layout.Geometry

/-! # Arrangements

An `Arrangement` is the result of a layout: rectangles of nodes, in groups or not.

* `Arrangement.placements`: the rectangles in the order in which they are drawn, each group in front
  of its nodes. `nodePlacements` leaves the groups out.
* `Arrangement.nodeRect?`, `Arrangement.flatten`: the rectangle of one node, and of all nodes.
-/

namespace RefAtlas.Layout
set_option autoImplicit false

variable {α : Type}

structure NodeBox (α : Type) where
  id : String
  rect : Rect α
deriving DecidableEq

structure GroupBox (α : Type) where
  name : String
  rect : Rect α
  nodes : List (NodeBox α)
deriving DecidableEq

inductive Arrangement (α : Type) where
  | grouped (groups : List (GroupBox α)) (size : Size α)
  | flat (nodes : Dictionary (Rect α))

inductive Placement (α : Type) where
  | group (name : String) (rect : Rect α)
  | node (id : String) (rect : Rect α)
deriving DecidableEq

namespace Arrangement

def empty : Arrangement α := .flat .empty

def placements : Arrangement α → List (Placement α)
  | .grouped groups _ => groups.flatMap fun g =>
      .group g.name g.rect :: g.nodes.map fun n => .node n.id n.rect
  | .flat nodes => nodes.entries.map fun e => .node e.1 e.2

/-- The nodes with their rectangles, in the order in which they are drawn. -/
def nodePlacements (a : Arrangement α) : List (String × Rect α) :=
  a.placements.filterMap fun p => match p with
    | .node id rect => some (id, rect)
    | .group _ _ => none

/-- The rectangle of a node; in groups, the first one. -/
def nodeRect? (a : Arrangement α) (id : String) : Option (Rect α) :=
  match a with
  | .grouped groups _ =>
    ((groups.flatMap GroupBox.nodes).find? fun n => n.id == id).map NodeBox.rect
  | .flat nodes => nodes.get? id

def nodeCount : Arrangement α → Nat
  | .grouped groups _ => (groups.flatMap GroupBox.nodes).length
  | .flat nodes => nodes.size

/-- The rectangle of every node; the one drawn last counts. -/
def flatten (a : Arrangement α) : Dictionary (Rect α) := Dictionary.ofList a.nodePlacements

end Arrangement

end RefAtlas.Layout
