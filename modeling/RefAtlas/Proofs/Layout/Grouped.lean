import RefAtlas.Layout.Grouped
import RefAtlas.Proofs.Layout.Packing.Separation

/-! # Groups that keep their distance

The nodes of a group are packed, the groups are packed, and every node moves with its group. Moving
changes no distance, so what holds of a packing holds of both levels, over exact coordinates.

* `getElem?_groupBoxes`, `getElem?_nodes_box`: the boxes of an arrangement, one by one.
* `map_members_groupBoxes`: nothing is lost, doubled or put elsewhere.
* `arrangeGroups_keeps_distances`: the distances at both levels.
-/

namespace RefAtlas.Layout
open RefAtlas.Number
set_option autoImplicit false

/-! ## The boxes -/

section Boxes
variable {α : Type} [Scalar α]

/-- What a box is a box of: its name, and its nodes with their sizes. -/
def GroupBox.members (box : GroupBox α) : GroupMembers α :=
  ⟨box.name, box.nodes.map fun n => (n.id, n.rect.size)⟩

def GroupMembers.packing (group : GroupMembers α) (config : GridConfig α) : Packing α :=
  packNodes (group.nodes.map Prod.snd) config

def outerPacking (groups : List (GroupMembers α)) (config : GridConfig α) : Packing α :=
  packGroups (groups.map fun g => (g.packing config).size) config

def groupBoxes (groups : List (GroupMembers α)) (config : GridConfig α) : List (GroupBox α) :=
  (groups.zip (outerPacking groups config).positions).map fun (g, corner) =>
    g.box (g.packing config) corner

theorem map_box_zip (groups : List (GroupMembers α)) (config : GridConfig α)
    (corners : List (Point α)) :
    (((groups.zip (groups.map fun g => g.packing config)).zip corners).map fun x =>
        x.1.1.box x.1.2 x.2) =
      (groups.zip corners).map fun x => x.1.box (x.1.packing config) x.2 := by
  induction groups generalizing corners with
  | nil => rfl
  | cons g rest ih =>
    cases corners with
    | nil => rfl
    | cons corner corners => exact congrArg (_ :: ·) (ih corners)

theorem arrangeGroups_eq (groups : List (GroupMembers α)) (config : GridConfig α) :
    arrangeGroups groups config =
      .grouped (groupBoxes groups config) (outerPacking groups config).size := by
  have hsizes : (groups.map fun g => packNodes (g.nodes.map Prod.snd) config).map Packing.size =
      groups.map fun g => (g.packing config).size := by
    rw [List.map_map]
    rfl
  rw [arrangeGroups]
  dsimp only
  rw [hsizes]
  exact congrArg (Arrangement.grouped · _) (map_box_zip groups config _)

variable {groups : List (GroupMembers α)} {config : GridConfig α}

theorem length_positions_outer :
    (outerPacking groups config).positions.length = groups.length := by
  rw [outerPacking, packGroups, length_positions_pack, List.length_map]

theorem getElem?_groupBoxes {i : Nat} {box : GroupBox α} :
    (groupBoxes groups config)[i]? = some box ↔ ∃ g corner, groups[i]? = some g ∧
      (outerPacking groups config).positions[i]? = some corner ∧
      g.box (g.packing config) corner = box := by
  rw [groupBoxes, List.getElem?_map, Option.map_eq_some_iff]
  simp only [Prod.exists, List.getElem?_zip_eq_some, and_assoc]

theorem getElem?_nodes_box {group : GroupMembers α} {packing : Packing α} {corner : Point α}
    {i : Nat} {node : NodeBox α} :
    (group.box packing corner).nodes[i]? = some node ↔ ∃ id size local_,
      group.nodes[i]? = some (id, size) ∧ packing.positions[i]? = some local_ ∧
      ⟨id, .ofCorner (corner.add local_) size⟩ = node := by
  rw [GroupMembers.box, List.getElem?_map, Option.map_eq_some_iff]
  simp only [Prod.exists, List.getElem?_zip_eq_some, and_assoc]

theorem members_box (group : GroupMembers α) (config : GridConfig α) (corner : Point α) :
    (group.box (group.packing config) corner).members = group := by
  have hlength : group.nodes.length ≤ (group.packing config).positions.length := by
    rw [GroupMembers.packing, packNodes, length_positions_pack, List.length_map]
  have hnodes := List.map_fst_zip hlength
  have hmap : ((group.box (group.packing config) corner).nodes.map fun n =>
      (n.id, n.rect.size)) = group.nodes := by
    rw [GroupMembers.box, List.map_map]
    exact hnodes
  rw [GroupBox.members, hmap]
  rfl

theorem map_members_groupBoxes (groups : List (GroupMembers α)) (config : GridConfig α) :
    (groupBoxes groups config).map GroupBox.members = groups := by
  have hgroups : (groups.zip (outerPacking groups config).positions).map Prod.fst = groups :=
    List.map_fst_zip (Nat.le_of_eq length_positions_outer.symm)
  rw [groupBoxes, List.map_map]
  refine Eq.trans (List.map_congr_left fun x _ => ?_) hgroups
  exact members_box x.1 config x.2

end Boxes

/-! ## Distances -/

theorem Rect.ofCorner_add (corner local_ : Point ℚ) (size : Size ℚ) :
    Rect.ofCorner (corner.add local_) size = (Rect.ofCorner local_ size).translate corner := by
  have hx : corner.x + local_.x = local_.x + corner.x := add_comm _ _
  have hy : corner.y + local_.y = local_.y + corner.y := add_comm _ _
  change Rect.mk (corner.x + local_.x) (corner.y + local_.y) size.width size.height = _
  rw [hx, hy]
  rfl

theorem Rect.ofCorner_eq_translate (corner : Point ℚ) (size : Size ℚ) :
    Rect.ofCorner corner size = (Rect.ofCorner Point.zero size).translate corner := by
  rw [← Rect.ofCorner_add]
  change Rect.mk corner.x corner.y size.width size.height =
    Rect.mk (corner.x + Scalar.zero) (corner.y + Scalar.zero) size.width size.height
  rw [Scalar.zero_rat, add_zero, add_zero]

section Nodes
variable {group : GroupMembers ℚ} {config : GridConfig ℚ} {corner : Point ℚ}

theorem box_encloses (hpadding : 0 ≤ config.padding) :
    ∀ node ∈ (group.box (group.packing config) corner).nodes,
      Rect.Encloses config.padding (group.box (group.packing config) corner).rect node.rect := by
  intro node hnode
  obtain ⟨i, hi⟩ := List.getElem?_of_mem hnode
  obtain ⟨id, size, local_, hsize, hlocal, rfl⟩ := getElem?_nodes_box.1 hi
  have hsizes : (group.nodes.map Prod.snd)[i]? = some size := by
    rw [List.getElem?_map, hsize]
    rfl
  have hinside := pack_encloses config.objective hpadding hsizes hlocal
  change Rect.Encloses config.padding (.ofCorner corner (group.packing config).size)
    (.ofCorner (corner.add local_) size)
  rw [Rect.ofCorner_add, Rect.ofCorner_eq_translate corner]
  exact Rect.encloses_translate corner hinside

theorem pairwise_apart_box (hpadding : 0 ≤ config.padding) :
    (group.box (group.packing config) corner).nodes.Pairwise fun m n =>
      Rect.Apart config.padding m.rect n.rect := by
  refine pairwise_of_getElem? fun i j m n hij hm hn => ?_
  obtain ⟨id, size, local_, hsize, hlocal, rfl⟩ := getElem?_nodes_box.1 hm
  obtain ⟨id', size', local', hsize', hlocal', rfl⟩ := getElem?_nodes_box.1 hn
  have hsizes : (group.nodes.map Prod.snd)[i]? = some size := by
    rw [List.getElem?_map, hsize]
    rfl
  have hsizes' : (group.nodes.map Prod.snd)[j]? = some size' := by
    rw [List.getElem?_map, hsize']
    rfl
  have hapart := pack_apart config.objective hpadding (Nat.ne_of_lt hij) hsizes hlocal hsizes' hlocal'
  rw [Rect.ofCorner_add, Rect.ofCorner_add]
  exact Rect.apart_translate corner hapart

end Nodes

section Groups
variable {groups : List (GroupMembers ℚ)} {config : GridConfig ℚ}

theorem getElem?_sizes {i : Nat} {group : GroupMembers ℚ} (h : groups[i]? = some group) :
    (groups.map fun g => (g.packing config).size)[i]? = some (group.packing config).size := by
  rw [List.getElem?_map, h]
  rfl

theorem outer_encloses (hgroupPadding : 0 ≤ config.groupPadding) :
    ∀ box ∈ groupBoxes groups config, Rect.Encloses config.groupPadding
      (.ofCorner .zero (outerPacking groups config).size) box.rect := by
  intro box hbox
  obtain ⟨i, hi⟩ := List.getElem?_of_mem hbox
  obtain ⟨g, corner, hg, hcorner, rfl⟩ := getElem?_groupBoxes.1 hi
  exact pack_encloses config.groupObjective hgroupPadding (getElem?_sizes hg) hcorner

theorem pairwise_apart_groupBoxes (hgroupPadding : 0 ≤ config.groupPadding) :
    (groupBoxes groups config).Pairwise fun a b =>
      Rect.Apart config.groupPadding a.rect b.rect := by
  refine pairwise_of_getElem? fun i j a b hij ha hb => ?_
  obtain ⟨g, corner, hg, hcorner, rfl⟩ := getElem?_groupBoxes.1 ha
  obtain ⟨g', corner', hg', hcorner', rfl⟩ := getElem?_groupBoxes.1 hb
  exact pack_apart config.groupObjective hgroupPadding (Nat.ne_of_lt hij) (getElem?_sizes hg)
    hcorner (getElem?_sizes hg') hcorner'

theorem encloses_of_mem_groupBoxes (hpadding : 0 ≤ config.padding) {box : GroupBox ℚ}
    (hbox : box ∈ groupBoxes groups config) :
    ∀ node ∈ box.nodes, Rect.Encloses config.padding box.rect node.rect := by
  obtain ⟨i, hi⟩ := List.getElem?_of_mem hbox
  obtain ⟨g, corner, -, -, rfl⟩ := getElem?_groupBoxes.1 hi
  exact box_encloses hpadding

/-- Nodes of one group are packed apart; nodes of two groups are within boxes that are. -/
theorem pairwise_not_overlaps_nodes (hpadding : 0 ≤ config.padding)
    (hgroupPadding : 0 ≤ config.groupPadding) :
    ((groupBoxes groups config).flatMap GroupBox.nodes).Pairwise fun m n =>
      m.rect.overlaps n.rect = false := by
  rw [List.pairwise_flatMap]
  constructor
  · intro box hbox
    obtain ⟨i, hi⟩ := List.getElem?_of_mem hbox
    obtain ⟨g, corner, -, -, rfl⟩ := getElem?_groupBoxes.1 hi
    exact (pairwise_apart_box hpadding).imp fun h => h.not_overlaps hpadding
  · refine (pairwise_apart_groupBoxes hgroupPadding).imp_of_mem fun {a b} ha hb hab => ?_
    intro m hm n hn
    have hencloses := encloses_of_mem_groupBoxes hpadding ha m hm
    have hencloses' := encloses_of_mem_groupBoxes hpadding hb n hn
    exact (hab.of_encloses hencloses hencloses' hpadding).not_overlaps hgroupPadding

end Groups

/-- An arrangement in groups returns all groups and nodes in their order. Every node lies within its
group at the distance of the padding, every group within the whole, groups are apart by their own
padding, and no two nodes overlap. -/
theorem arrangeGroups_keeps_distances (groups : List (GroupMembers ℚ)) (config : GridConfig ℚ)
    (hpadding : 0 ≤ config.padding) (hgroupPadding : 0 ≤ config.groupPadding) :
    ∃ boxes total, arrangeGroups groups config = .grouped boxes total ∧
      boxes.map GroupBox.members = groups ∧
      (∀ box ∈ boxes, ∀ node ∈ box.nodes, box.rect.contains node.rect = true ∧
        Rect.Encloses config.padding box.rect node.rect) ∧
      (boxes.Pairwise fun a b => a.rect.overlaps b.rect = false ∧
        Rect.Apart config.groupPadding a.rect b.rect) ∧
      (∀ box ∈ boxes, (Rect.ofCorner .zero total).contains box.rect = true) ∧
      (boxes.flatMap GroupBox.nodes).Pairwise fun m n => m.rect.overlaps n.rect = false := by
  refine ⟨groupBoxes groups config, (outerPacking groups config).size,
    arrangeGroups_eq groups config, map_members_groupBoxes groups config, ?_, ?_, ?_,
    pairwise_not_overlaps_nodes hpadding hgroupPadding⟩
  · intro box hbox node hnode
    have hencloses := encloses_of_mem_groupBoxes hpadding hbox node hnode
    exact ⟨hencloses.contains hpadding, hencloses⟩
  · exact (pairwise_apart_groupBoxes hgroupPadding).imp fun h =>
      ⟨h.not_overlaps hgroupPadding, h⟩
  · intro box hbox
    exact (outer_encloses hgroupPadding box hbox).contains hgroupPadding

/-- Two groups of one name with a node of one id, sizes that are negative or zero, and a group
without nodes. -/
def mixedGroups : List (GroupMembers ℚ) :=
  [⟨"core", [("A", ⟨100, 50⟩), ("B", ⟨3 / 2, 200⟩), ("C", ⟨-5, 0⟩)]⟩, ⟨"ui", []⟩,
    ⟨"core", [("A", ⟨20, 20⟩)]⟩]

def touchingConfig : GridConfig ℚ := ⟨10, 0, .squareAspect, .minArea⟩

theorem arrangeGroups_keeps_distances_mixedGroups :
    0 ≤ touchingConfig.padding ∧ 0 ≤ touchingConfig.groupPadding ∧
    ∃ boxes total, arrangeGroups mixedGroups touchingConfig = .grouped boxes total ∧
      boxes.length = 3 ∧ (boxes.map fun b => b.nodes.length) = [3, 0, 1] ∧
      (boxes.flatMap GroupBox.nodes).Pairwise fun m n => m.rect.overlaps n.rect = false := by
  have hpadding : (0 : ℚ) ≤ touchingConfig.padding := by norm_num [touchingConfig]
  have hgroupPadding : (0 : ℚ) ≤ touchingConfig.groupPadding := le_refl 0
  obtain ⟨boxes, total, harrange, hmembers, -, -, -, hapart⟩ :=
    arrangeGroups_keeps_distances mixedGroups touchingConfig hpadding hgroupPadding
  have hcounts := congrArg (List.map fun g : GroupMembers ℚ => g.nodes.length) hmembers
  rw [List.map_map] at hcounts
  have hlength := congrArg List.length hmembers
  rw [List.length_map] at hlength
  refine ⟨hpadding, hgroupPadding, boxes, total, harrange, hlength, ?_, hapart⟩
  simpa [Function.comp_def, GroupBox.members, mixedGroups] using hcounts

end RefAtlas.Layout
