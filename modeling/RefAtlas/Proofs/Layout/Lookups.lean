import RefAtlas.Number.Single
import RefAtlas.Proofs.Layout.Modes

/-! # Looking nodes up

An arrangement is asked for one node, for all nodes and for their number, and it is drawn on a map.
In groups a node that the plan repeats stands twice. Who asks for it finds the first of its places,
all nodes and the map have the last one, and the number counts both.

* `drawOn_eq`, `get?_drawOn`: what a map holds on which an arrangement is drawn.
* `Plan.nodup_drawn_iff`, `Plan.count_drawn_le_one`: whether a node is drawn twice.
* `Plan.lookups_agree_iff`: when all readings of the arrangement of a plan agree.
-/

namespace RefAtlas.Layout
open RefAtlas.Number
set_option autoImplicit false

variable {α : Type}

/-! ## Drawing on a map -/

/-- A map from ids to rectangles takes nodes and no groups. -/
def Placement.drawOn (target : Dictionary (Rect α)) : Placement α → Dictionary (Rect α)
  | .group _ _ => target
  | .node id rect => target.insert id rect

namespace Arrangement

def drawOn (target : Dictionary (Rect α)) (a : Arrangement α) : Dictionary (Rect α) :=
  a.placements.foldl Placement.drawOn target

theorem drawOn_eq (target : Dictionary (Rect α)) (a : Arrangement α) :
    a.drawOn target = a.nodePlacements.foldl (fun d e => d.insert e.1 e.2) target := by
  rw [drawOn, nodePlacements, List.foldl_filterMap]
  congr 1
  funext target p
  cases p <;> rfl

theorem get?_drawOn (target : Dictionary (Rect α)) (a : Arrangement α) (id : String) :
    (a.drawOn target).get? id = (a.flatten.get? id).or (target.get? id) := by
  rw [drawOn_eq, Dictionary.get?_foldl_insert, flatten]

end Arrangement

/-! ## The arrangement of a plan -/

open Arrangement

variable [Scalar α] {plan : Plan} {mode : Mode} {sizes : Dictionary (Size α)}
  {config : LayoutConfig α} {a : Arrangement α}

theorem Plan.exists_flat_of_arrange (h : plan.arrange mode sizes config = .ok a)
    (hmode : mode ≠ .grouped) : ∃ nodes, a = .flat nodes := by
  cases mode with
  | grouped => exact absurd rfl hmode
  | grid => exact ⟨_, (Except.ok.inj h).symm⟩
  | uniform => exact ⟨_, (Except.ok.inj h).symm⟩
  | force =>
    obtain ⟨layout, -, rfl⟩ := Plan.exists_simulate_of_arrange h
    rw [ForceLayout.arrange]
    split <;> exact ⟨_, rfl⟩

theorem Plan.nodup_of_arrange (h : plan.arrange mode sizes config = .ok a)
    (hmode : mode ≠ .grouped) : (a.nodePlacements.map Prod.fst).Nodup := by
  obtain ⟨nodes, rfl⟩ := Plan.exists_flat_of_arrange h hmode
  rw [nodePlacements_flat]
  exact nodes.nodup_keys

theorem Plan.perm_of_arrange_grouped (h : plan.arrange .grouped sizes config = .ok a) :
    (a.nodePlacements.map Prod.fst).Perm plan.nodes := by
  obtain rfl := Except.ok.inj h
  have hdrawn := map_nodePlacements_arrangeGroups
    (plan.members sizes config.uniform.defaultSize) config.grid
  have hids := (plan.members_perm sizes config.uniform.defaultSize).map Prod.fst
  rw [← hdrawn, List.map_map, List.map_map] at hids
  simpa [Function.comp_def] using hids

theorem Plan.nodup_drawn_iff (h : plan.arrange mode sizes config = .ok a) :
    (a.nodePlacements.map Prod.fst).Nodup ↔ mode ≠ .grouped ∨ plan.nodes.Nodup := by
  by_cases hmode : mode = .grouped
  · subst hmode
    rw [(Plan.perm_of_arrange_grouped h).nodup_iff]
    simp
  · exact iff_of_true (Plan.nodup_of_arrange h hmode) (.inl hmode)

theorem Plan.count_drawn_le_one (h : plan.arrange mode sizes config = .ok a) {id : String}
    (hid : mode ≠ .grouped ∨ plan.nodes.count id ≤ 1) :
    (a.nodePlacements.map Prod.fst).count id ≤ 1 := by
  by_cases hmode : mode = .grouped
  · subst hmode
    rw [(Plan.perm_of_arrange_grouped h).count_eq]
    exact hid.resolve_left (not_not_intro rfl)
  · exact List.nodup_iff_count_le_one.1 (Plan.nodup_of_arrange h hmode) id

/-- The readings of an arrangement agree on all nodes and on their number exactly if it has no
groups or the plan repeats no node. A node that is not repeated is always found in the same place,
and a map on which the arrangement is drawn has the same rectangles as the list of all nodes. -/
theorem Plan.lookups_agree_iff (h : plan.arrange mode sizes config = .ok a) :
    (((∀ id, a.nodeRect? id = a.flatten.get? id) ∧ a.nodeCount = a.flatten.size) ↔
      mode ≠ .grouped ∨ plan.nodes.Nodup) ∧
    (∀ id, mode ≠ .grouped ∨ plan.nodes.count id ≤ 1 → a.nodeRect? id = a.flatten.get? id) ∧
    (∀ id, ((a.nodeRect? id).isSome = true ↔ id ∈ plan.nodes) ∧
      ((a.flatten.get? id).isSome = true ↔ id ∈ plan.nodes)) ∧
    a.flatten.size = plan.nodes.dedup.length ∧
    ∀ target id, (a.drawOn target).get? id = (a.flatten.get? id).or (target.get? id) := by
  have hshows := Plan.shows_arrange h
  have honce : ∀ id, mode ≠ .grouped ∨ plan.nodes.count id ≤ 1 →
      a.nodeRect? id = a.flatten.get? id := fun id hid =>
    nodeRect?_eq_of_count_le_one (Plan.count_drawn_le_one h hid)
  refine ⟨⟨fun hagree => ?_, fun hnodes => ⟨fun id => honce id ?_, ?_⟩⟩, honce,
    fun id => ⟨hshows.isSome_nodeRect?_iff, isSome_get?_flatten_iff.trans (hshows.mem_iff id)⟩,
    size_flatten hshows.mem_iff, fun target id => get?_drawOn target a id⟩
  · exact (Plan.nodup_drawn_iff h).1 (nodeCount_eq_size_iff.1 hagree.2)
  · exact hnodes.imp_right fun hnodup => List.nodup_iff_count_le_one.1 hnodup id
  · exact nodeCount_eq_size_iff.2 ((Plan.nodup_drawn_iff h).2 hnodes)

/-! ## A repeated node in a group -/

def repeatedCart : Plan := ⟨["Cart", "Cart"], .empty, [], []⟩

theorem Plan.lookups_agree_iff_repeatedCart :
    ∃ grid grouped : Arrangement Float32,
      repeatedCart.arrange .grid .empty .standard = .ok grid ∧
      repeatedCart.arrange .grouped .empty .standard = .ok grouped ∧
      grid.nodeRect? "Cart" = grid.flatten.get? "Cart" ∧ grid.nodeCount = grid.flatten.size ∧
      ¬((∀ id, grouped.nodeRect? id = grouped.flatten.get? id) ∧
        grouped.nodeCount = grouped.flatten.size) ∧ grouped.flatten.size = 1 := by
  let config := LayoutConfig.standard (α := Float32)
  have hgrid : repeatedCart.arrange .grid .empty config = .ok _ := rfl
  have hgrouped : repeatedCart.arrange .grouped .empty config = .ok _ := rfl
  obtain ⟨hflat, -⟩ := Plan.lookups_agree_iff hgrid
  obtain ⟨hgroups, -, -, hsize, -⟩ := Plan.lookups_agree_iff hgrouped
  obtain ⟨hrects, hcount⟩ := hflat.2 (.inl (by decide))
  exact ⟨_, _, hgrid, hgrouped, hrects "Cart", hcount, fun h => absurd (hgroups.1 h) (by decide),
    hsize⟩

/-- The size of a node that was not measured. -/
def cart : Size Float32 := ⟨100, 200⟩

theorem sortedItems_cart : sortedItems [cart, cart] = [⟨0, cart⟩, ⟨1, cart⟩] := by
  refine List.mergeSort_of_pairwise ?_
  decide

theorem gridOf_singleton (a : Item α) : gridOf [a] 1 = .ofRows 1 [[a]] := by cbv

theorem gridOf_pair (a b : Item α) :
    gridOf [a, b] 1 = .ofRows 2 [[a, b]] ∧ gridOf [a, b] 2 = .ofRows 1 [[a], [b]] := by
  constructor <;> cbv

/-- Side by side, the two are closer to a square than one above the other. -/
theorem bestGrid_cart : bestGrid [⟨0, cart⟩, ⟨1, cart⟩] 20 .squareAspect =
    .ofRows 2 [[⟨0, cart⟩, ⟨1, cart⟩]] := by
  have hothers : List.range' 2 (ceilSqrt [Item.mk 0 cart, ⟨1, cart⟩].length - 1) = [2] := by decide
  rw [bestGrid, hothers, List.map_singleton, List.foldl_cons, List.foldl_nil, (gridOf_pair _ _).1,
    (gridOf_pair _ _).2, betterGrid, if_neg]
  decide +kernel

theorem positions_packNodes_cart :
    (packNodes [cart, cart] .standard).positions = [⟨20, 20⟩, ⟨140, 20⟩] := by
  have hpadding : (GridConfig.standard (α := Float32)).padding = 20 := by decide
  have hobjective : (GridConfig.standard (α := Float32)).objective = .squareAspect := rfl
  rw [packNodes, hpadding, hobjective, pack, if_neg (by simp), sortedItems_cart, bestGrid_cart]
  dsimp only
  rw [List.mergeSort_of_pairwise]
  all_goals decide +kernel

/-- A single group has the padding to its left and above it. -/
theorem positions_pack_singleton (size : Size α) (padding : α) (objective : Objective) :
    (pack [size] padding objective).positions = [⟨padding, padding⟩] := by
  have hitems : sortedItems [size] = [⟨0, size⟩] := List.mergeSort_singleton _
  have hothers : List.range' 2 (ceilSqrt 1 - 1) = [] := by decide
  have hbest : bestGrid [⟨0, size⟩] padding objective = .ofRows 1 [[⟨0, size⟩]] := by
    rw [bestGrid, List.length_singleton, hothers, List.map_nil, List.foldl_nil, gridOf_singleton]
  rw [pack, if_neg (by simp), hitems, hbest]
  exact congrArg (List.map Prod.snd) (List.mergeSort_singleton _)

theorem nodePlacements_arrangeGroups_singleton (g : GroupMembers α) (config : GridConfig α) :
    (arrangeGroups [g] config).nodePlacements =
      (g.nodes.zip (packNodes (g.nodes.map Prod.snd) config).positions).map fun (n, corner) =>
        (n.1, .ofCorner (Point.add ⟨config.groupPadding, config.groupPadding⟩ corner) n.2) := by
  rw [arrangeGroups, nodePlacements_grouped]
  simp only [List.map_cons, List.map_nil, packGroups, positions_pack_singleton]
  simp [GroupMembers.box, Function.comp_def]

theorem nodePlacements_repeatedCart {a : Arrangement Float32}
    (h : repeatedCart.arrange .grouped .empty .standard = .ok a) :
    a.nodePlacements = [("Cart", ⟨70, 70, 100, 200⟩), ("Cart", ⟨190, 70, 100, 200⟩)] := by
  have hsize : (LayoutConfig.standard (α := Float32)).uniform.defaultSize = cart := by
    decide
  have hgrid : (LayoutConfig.standard (α := Float32)).grid = .standard := rfl
  have hmembers : repeatedCart.members .empty cart =
      [⟨ungrouped, [("Cart", cart), ("Cart", cart)]⟩] := rfl
  obtain rfl := Except.ok.inj h
  rw [hsize, hgrid, hmembers, nodePlacements_arrangeGroups_singleton, List.map_cons, List.map_cons,
    List.map_nil, positions_packNodes_cart]
  decide +kernel

/-- Alone, the repeated node is found in the first place of its group, and among all nodes in the
second one. -/
theorem repeatedCart_lookups_disagree :
    ∃ a : Arrangement Float32,
      repeatedCart.arrange .grouped .empty .standard = .ok a ∧
      a.nodeRect? "Cart" = some ⟨70, 70, 100, 200⟩ ∧
      a.flatten.get? "Cart" = some ⟨190, 70, 100, 200⟩ ∧
      a.nodeRect? "Cart" ≠ a.flatten.get? "Cart" ∧
      a.nodeCount = 2 ∧ a.flatten.size = 1 := by
  obtain ⟨a, ha⟩ : ∃ a : Arrangement Float32,
      repeatedCart.arrange .grouped .empty .standard = .ok a := ⟨_, rfl⟩
  have hplaces := nodePlacements_repeatedCart ha
  have hfirst : a.nodeRect? "Cart" = some ⟨70, 70, 100, 200⟩ := by
    rw [nodeRect?_eq, hplaces]
    rfl
  have hlast : a.flatten.get? "Cart" = some ⟨190, 70, 100, 200⟩ := by
    rw [flatten, Dictionary.get?_ofList, hplaces]
    rfl
  refine ⟨a, ha, hfirst, hlast, ?_, ?_, ?_⟩
  · rw [hfirst, hlast]
    decide
  · rw [nodeCount_eq, hplaces]
    rfl
  · exact size_flatten (Plan.shows_arrange ha).mem_iff

end RefAtlas.Layout
