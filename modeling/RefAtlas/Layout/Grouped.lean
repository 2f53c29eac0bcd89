import RefAtlas.Layout.Arrangement
import RefAtlas.Layout.Packing

/-! # Layout in groups

`arrangeGroups` packs the nodes of each group, packs the groups against each other, and moves every
node by the place of its group. A group without nodes has no extent.
-/

namespace RefAtlas.Layout
open RefAtlas.Number
set_option autoImplicit false

variable {α : Type} [Scalar α]

structure GroupMembers (α : Type) where
  name : String
  nodes : List (String × Size α)

def GroupMembers.box (group : GroupMembers α) (packing : Packing α) (corner : Point α) :
    GroupBox α where
  name := group.name
  rect := .ofCorner corner packing.size
  nodes := (group.nodes.zip packing.positions).map fun (node, local_) =>
    ⟨node.1, .ofCorner (corner.add local_) node.2⟩

/-- Packs the nodes of each group and then the groups. -/
def arrangeGroups (groups : List (GroupMembers α)) (config : GridConfig α) : Arrangement α :=
  let inner := groups.map fun g => packNodes (g.nodes.map Prod.snd) config
  let outer := packGroups (inner.map Packing.size) config
  .grouped (((groups.zip inner).zip outer.positions).map fun ((g, packing), corner) =>
    g.box packing corner) outer.size

end RefAtlas.Layout
