import RefAtlas.Proofs.Layout.Grouped
import RefAtlas.Proofs.Layout.Members
import RefAtlas.Proofs.Layout.Motion
import RefAtlas.Proofs.Layout.Placements
import RefAtlas.Proofs.Layout.Session

/-! # Every mode lays out the plan

A packed grid, packed groups, simulated forces and uniform cells put ids and rectangles together in
four ways. All of them show every node of the plan and no other.

* `shows_arrangeGrid`, `shows_arrangeGroups`, `shows_arrangeForce`, `shows_arrangeUniform`: what
  each way shows, and with which sizes; `Plan.shows_arrange` is all of them.
* `Plan.arrange_each_node_once`: the nodes of an arrangement, however they are read.
* `Plan.arrange_sizes`: the sizes of the nodes. One that is not measured has the standard size,
  except on a uniform grid, where it fills its cell (`unmeasured_fills_cell`).
-/

namespace RefAtlas.Layout
open RefAtlas.Number
set_option autoImplicit false

variable {α : Type}

namespace Arrangement

/-- Nodes drawn with sizes that are, in whatever order, those of a list. -/
theorem shows_of_perm {nodes : List String} {size : String → Size α} {a : Arrangement α}
    (h : (a.nodePlacements.map fun p => (p.1, p.2.size)).Perm
      (nodes.map fun id => (id, size id))) : Shows nodes size a := by
  have hids : (a.nodePlacements.map Prod.fst).Perm nodes := by
    have hfst := h.map Prod.fst
    rw [List.map_map, List.map_map] at hfst
    simpa [Function.comp_def] using hfst
  refine ⟨fun id => hids.mem_iff, fun hnodes => hids.nodup_iff.2 hnodes, fun p hp => ?_⟩
  have hmem := h.mem_iff.1 (List.mem_map_of_mem (f := fun p => (p.1, p.2.size)) hp)
  obtain ⟨id, -, heq⟩ := List.mem_map.1 hmem
  obtain ⟨hid, hsize⟩ := Prod.mk.inj heq
  rw [← hsize, hid]

end Arrangement

open Arrangement

variable [Scalar α]

/-! ## The four ways -/

theorem shows_arrangeGrid (plan : Plan) (sizes : Dictionary (Size α)) (config : LayoutConfig α) :
    Shows plan.nodes (sizeOf sizes config.uniform.defaultSize) (plan.arrangeGrid sizes config) := by
  let nodes := plan.nodes.map fun id => (id, sizeOf sizes config.uniform.defaultSize id)
  have hlength : nodes.length ≤ (packNodes (nodes.map Prod.snd) config.grid).positions.length := by
    rw [packNodes, length_positions_pack]
    simp
  have hnodes := congrArg (List.map Prod.fst) (List.map_fst_zip hlength)
  refine shows_flat_ofList ?_ fun p hp => ?_
  · have hids : nodes.map Prod.fst = plan.nodes := by simp [nodes, Function.comp_def]
    rw [List.map_map] at hnodes ⊢
    exact hnodes.trans hids
  · obtain ⟨⟨node, corner⟩, hmem, rfl⟩ := List.mem_map.1 hp
    obtain ⟨id, -, rfl⟩ := List.mem_map.1 (List.of_mem_zip hmem).1
    rfl

theorem map_nodePlacements_arrangeGroups (groups : List (GroupMembers α)) (config : GridConfig α) :
    (arrangeGroups groups config).nodePlacements.map (fun p => (p.1, p.2.size)) =
      groups.flatMap GroupMembers.nodes := by
  have hmembers := congrArg (List.flatMap GroupMembers.nodes)
    (map_members_groupBoxes groups config)
  rw [List.flatMap_map] at hmembers
  rw [arrangeGroups_eq, nodePlacements_grouped, List.map_map, List.map_flatMap]
  exact hmembers

theorem shows_arrangeGroups (plan : Plan) (sizes : Dictionary (Size α)) (defaultSize : Size α)
    (config : GridConfig α) :
    Shows plan.nodes (sizeOf sizes defaultSize)
      (arrangeGroups (plan.members sizes defaultSize) config) := by
  refine shows_of_perm ?_
  rw [map_nodePlacements_arrangeGroups]
  exact plan.members_perm sizes defaultSize

/-- Turning centres into rectangles and moving these changes neither nodes nor sizes. -/
theorem shows_arrangeForce {nodes : List String} {layout : ForceLayout α}
    (hkeys : ∀ id, id ∈ layout.centres.keys ↔ id ∈ nodes) (sizes : Dictionary (Size α))
    (defaultSize : Size α) (origin : Point α) :
    Shows nodes (sizeOf sizes defaultSize) (layout.arrange sizes defaultSize origin) := by
  let rects := layout.centres.mapEntries fun id centre =>
    Rect.around centre ((sizes.get? id).getD defaultSize)
  have hrects : ∀ p ∈ rects.entries, p.2.size = sizeOf sizes defaultSize p.1 := by
    intro p hp
    obtain ⟨e, -, rfl⟩ := List.mem_map.1 hp
    rfl
  have hids : ∀ id, id ∈ rects.keys ↔ id ∈ nodes := by
    intro id
    rw [Dictionary.keys_mapEntries, hkeys]
  rw [ForceLayout.arrange]
  cases hshift : shiftTo origin rects.values with
  | none => exact shows_flat hids hrects
  | some shift =>
    refine shows_flat (fun id => ?_) fun p hp => ?_
    · rw [Dictionary.keys_mapEntries]
      exact hids id
    · obtain ⟨e, he, rfl⟩ := List.mem_map.1 hp
      exact hrects e he

theorem shows_arrangeUniform (nodes : List String) (sizes : Dictionary (Size α))
    (config : UniformConfig α) :
    Shows nodes (fun id => (sizes.get? id).getD (cellSize nodes sizes config))
      (arrangeUniform nodes sizes config) := by
  refine shows_flat_ofList ?_ fun p hp => ?_
  · rw [List.map_map]
    exact List.zipIdx_map_fst 0 nodes
  · obtain ⟨⟨id, i⟩, -, rfl⟩ := List.mem_map.1 hp
    rfl

/-! ## All modes -/

/-- The size that a mode gives a node without a measured one. -/
def Plan.standInSize (plan : Plan) (mode : Mode) (sizes : Dictionary (Size α))
    (config : LayoutConfig α) : Size α :=
  match mode with
  | .uniform => cellSize plan.nodes sizes config.uniform
  | .grid | .grouped | .force => config.uniform.defaultSize

theorem Plan.arrange_eq_error_iff {plan : Plan} {mode : Mode} {sizes : Dictionary (Size α)}
    {config : LayoutConfig α} {fault : ConfigFault} :
    plan.arrange mode sizes config = .error fault ↔
      mode = .force ∧ config.force.validate = .error fault := by
  cases mode with
  | force =>
    have hsim : simulate plan.nodes plan.edges config.force = .error fault ↔
        config.force.validate = .error fault := simulate_eq_error_iff
    rw [Plan.arrange, ← hsim]
    cases simulate plan.nodes plan.edges config.force with
    | error _ => simp [bind, Except.bind]
    | ok _ => simp [bind, Except.bind, pure, Except.pure]
  | grid => simp [Plan.arrange]
  | grouped => simp [Plan.arrange]
  | uniform => simp [Plan.arrange]

theorem Plan.exists_simulate_of_arrange {plan : Plan} {sizes : Dictionary (Size α)}
    {config : LayoutConfig α} {a : Arrangement α} (h : plan.arrange .force sizes config = .ok a) :
    ∃ layout, simulate plan.nodes plan.edges config.force = .ok layout ∧
      a = layout.arrange sizes config.uniform.defaultSize config.uniform.origin := by
  rw [Plan.arrange] at h
  cases hsim : simulate plan.nodes plan.edges config.force with
  | error fault =>
    rw [hsim] at h
    cases h
  | ok layout =>
    rw [hsim] at h
    exact ⟨layout, rfl, (Except.ok.inj h).symm⟩

theorem Plan.shows_arrange {plan : Plan} {mode : Mode} {sizes : Dictionary (Size α)}
    {config : LayoutConfig α} {a : Arrangement α} (h : plan.arrange mode sizes config = .ok a) :
    Shows plan.nodes (fun id => (sizes.get? id).getD (plan.standInSize mode sizes config)) a := by
  cases mode with
  | force =>
    obtain ⟨layout, hsim, rfl⟩ := Plan.exists_simulate_of_arrange h
    exact shows_arrangeForce (fun id => mem_keys_simulate hsim) sizes _ _
  | grid =>
    obtain rfl := Except.ok.inj h
    exact shows_arrangeGrid plan sizes config
  | grouped =>
    obtain rfl := Except.ok.inj h
    exact shows_arrangeGroups plan sizes _ config.grid
  | uniform =>
    obtain rfl := Except.ok.inj h
    exact shows_arrangeUniform plan.nodes sizes config.uniform

/-- A layout fails only where forces are simulated and their settings make no sense. Any other one
has every node of the plan once and no other node, whether one reads one node or all of them. -/
theorem Plan.arrange_each_node_once (plan : Plan) (hnodes : plan.nodes.Nodup) (mode : Mode)
    (sizes : Dictionary (Size α)) (config : LayoutConfig α) :
    (∀ fault, plan.arrange mode sizes config = .error fault ↔
      mode = .force ∧ config.force.validate = .error fault) ∧
    (¬ (mode = .force ∧ ∃ fault, config.force.validate = .error fault) →
      ∃ a, plan.arrange mode sizes config = .ok a ∧
        a.nodeCount = plan.nodes.length ∧
        (a.nodePlacements.map Prod.fst).Perm plan.nodes ∧
        a.flatten.keys.Perm plan.nodes ∧
        (∀ id, (a.nodeRect? id).isSome = true ↔ id ∈ plan.nodes) ∧
        ∀ id, a.nodeRect? id = a.flatten.get? id) := by
  refine ⟨fun fault => Plan.arrange_eq_error_iff, fun hvalid => ?_⟩
  cases harrange : plan.arrange mode sizes config with
  | error fault =>
    have hfault := Plan.arrange_eq_error_iff.1 harrange
    exact absurd ⟨hfault.1, fault, hfault.2⟩ hvalid
  | ok a =>
    have hshows := Plan.shows_arrange harrange
    have hrects := get?_flatten (hshows.once hnodes)
    exact ⟨a, rfl, hshows.nodeCount hnodes, hshows.perm hnodes, hshows.keys_flatten hnodes,
      fun id => hshows.isSome_nodeRect?_iff, fun id => (hrects id).symm⟩

/-- A group that is called like the nodes without one, and an edge that leads nowhere. -/
def looseEnds : Plan where
  nodes := ["Cart", "Item", "Shop"]
  groups := .ofList [("Cart", ungrouped), ("Ghost", "core"), ("Shop", "core")]
  edges := [⟨"Cart", "Ghost"⟩]
  hidden := ["Till"]

theorem Plan.arrange_each_node_once_looseEnds :
    looseEnds.nodes.Nodup ∧
    (∀ fault, looseEnds.arrange .grouped .empty LayoutConfig.standard (α := ℚ) ≠ .error fault) ∧
    ∃ a, looseEnds.arrange .grouped .empty LayoutConfig.standard (α := ℚ) = .ok a ∧
      a.nodeCount = 3 ∧ a.flatten.keys.Perm ["Cart", "Item", "Shop"] ∧
      (a.nodeRect? "Item").isSome = true ∧ a.nodeRect? "Till" = none := by
  have hnodes : looseEnds.nodes.Nodup := by decide
  obtain ⟨hfails, harranged⟩ :=
    looseEnds.arrange_each_node_once hnodes .grouped .empty (LayoutConfig.standard (α := ℚ))
  obtain ⟨a, ha, hcount, -, hkeys, hrects, -⟩ := harranged fun h => Mode.noConfusion h.1
  refine ⟨hnodes, fun fault hfault => Mode.noConfusion ((hfails fault).1 hfault).1, a, ha, hcount,
    hkeys, (hrects "Item").2 (by decide), ?_⟩
  have htill : ¬ (a.nodeRect? "Till").isSome = true := fun h => absurd ((hrects _).1 h) (by decide)
  simpa using htill

/-! ## Sizes -/

/-- With settings that make sense every node of the plan has its measured size. One that is not
measured has the standard size, but on a uniform grid the size of a cell. -/
theorem Plan.arrange_sizes (plan : Plan) (mode : Mode) (sizes : Dictionary (Size α))
    (config : LayoutConfig α) (hconfig : config.validate = .ok ()) :
    ∃ a, plan.arrange mode sizes config = .ok a ∧ ∀ id ∈ plan.nodes, ∃ rect,
      a.nodeRect? id = some rect ∧
      rect.size = (sizes.get? id).getD (plan.standInSize mode sizes config) := by
  obtain ⟨a, ha⟩ := Plan.exists_arrange (LayoutConfig.force_valid hconfig) plan mode sizes
  exact ⟨a, ha, fun id hid => (Plan.shows_arrange ha).exists_nodeRect? hid⟩

/-- Two nodes, of which the first is measured and wider than the standard size. -/
def halfMeasured : Plan := ⟨["Cart", "Item"], .empty, [], []⟩

def cartSize : Dictionary (Size ℚ) := .ofList [("Cart", ⟨300, 50⟩)]

theorem cellSize_halfMeasured :
    cellSize halfMeasured.nodes cartSize (LayoutConfig.standard (α := ℚ)).uniform = ⟨300, 200⟩ := by
  decide

theorem Plan.arrange_sizes_halfMeasured :
    (LayoutConfig.standard (α := ℚ)).validate = .ok () ∧
    ∃ a cart item, halfMeasured.arrange .force cartSize LayoutConfig.standard = .ok a ∧
      a.nodeRect? "Cart" = some cart ∧ cart.size = ⟨300, 50⟩ ∧
      a.nodeRect? "Item" = some item ∧ item.size = ⟨100, 200⟩ := by
  have hconfig := validate_standard_rat
  obtain ⟨a, ha, hsizes⟩ :=
    halfMeasured.arrange_sizes .force cartSize (LayoutConfig.standard (α := ℚ)) hconfig
  obtain ⟨cart, hcart, hcartSize⟩ := hsizes "Cart" (by decide)
  obtain ⟨item, hitem, hitemSize⟩ := hsizes "Item" (by decide)
  have hcartIs : cartSize.get? "Cart" = some ⟨300, 50⟩ := by decide
  have hitemIs : cartSize.get? "Item" = none := by decide
  rw [hcartIs] at hcartSize
  rw [hitemIs] at hitemSize
  exact ⟨hconfig, a, cart, item, ha, hcart, hcartSize, hitem, hitemSize⟩

/-- On a uniform grid a node that is not measured is larger than the standard size as soon as
another node is. -/
theorem unmeasured_fills_cell :
    (LayoutConfig.standard (α := ℚ)).validate = .ok () ∧ cartSize.get? "Item" = none ∧
    ∃ a item, halfMeasured.arrange .uniform cartSize LayoutConfig.standard = .ok a ∧
      a.nodeRect? "Item" = some item ∧ item.size = ⟨300, 200⟩ ∧
      item.size ≠ (LayoutConfig.standard (α := ℚ)).uniform.defaultSize := by
  have hitemIs : cartSize.get? "Item" = none := by decide
  have hshows := shows_arrangeUniform halfMeasured.nodes cartSize
    (LayoutConfig.standard (α := ℚ)).uniform
  have hmem : "Item" ∈ halfMeasured.nodes := by decide
  obtain ⟨item, hitem, hsize⟩ := hshows.exists_nodeRect? hmem
  rw [hitemIs, Option.getD_none, cellSize_halfMeasured] at hsize
  refine ⟨validate_standard_rat, hitemIs, _, item, rfl, hitem, hsize, ?_⟩
  rw [hsize]
  decide

end RefAtlas.Layout
