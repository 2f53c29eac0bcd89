import Mathlib.Data.List.Dedup
import RefAtlas.Layout.Arrangement
import RefAtlas.Proofs.Dictionary

/-! # What an arrangement shows

One node, all nodes and their number are read off an arrangement in ways of their own, which differ
for nodes in groups and without. All of them read the list of nodes as they are drawn.

* `nodeCount_eq`, `nodeRect?_eq`: one node and the number in terms of that list.
* `get?_flatten`, `nodeCount_eq_size_iff`: when they agree with the dictionary of all nodes, which
  has the different ones (`size_flatten`).
* `Arrangement.Shows`: an arrangement has the nodes of a list and no others, with given sizes.
* `Shows.nodeCount`, `Shows.keys_flatten`, `Shows.exists_nodeRect?`: what can then be read.
-/

namespace RefAtlas.Layout
set_option autoImplicit false

variable {α : Type}

namespace Arrangement

/-! ## The nodes as they are drawn -/

theorem nodePlacements_flat (nodes : Dictionary (Rect α)) :
    (flat nodes).nodePlacements = nodes.entries := by
  rw [nodePlacements, placements, List.filterMap_map]
  exact List.filterMap_some

theorem nodePlacements_grouped (groups : List (GroupBox α)) (size : Size α) :
    (grouped groups size).nodePlacements =
      (groups.flatMap GroupBox.nodes).map fun n => (n.id, n.rect) := by
  induction groups with
  | nil => rfl
  | cons g rest ih =>
    rw [nodePlacements, placements] at ih ⊢
    rw [List.flatMap_cons, List.filterMap_append, ih, List.flatMap_cons, List.map_append,
      List.filterMap_cons_none rfl, List.filterMap_map]
    exact congrArg (· ++ _) (congrFun List.filterMap_eq_map' g.nodes)

theorem nodeCount_eq (a : Arrangement α) : a.nodeCount = a.nodePlacements.length := by
  cases a with
  | flat nodes => rw [nodePlacements_flat, nodeCount, Dictionary.size]
  | grouped groups size => rw [nodePlacements_grouped, nodeCount, List.length_map]

theorem nodeRect?_eq (a : Arrangement α) (id : String) :
    a.nodeRect? id = (a.nodePlacements.find? fun p => p.1 == id).map Prod.snd := by
  cases a with
  | flat nodes =>
    rw [nodePlacements_flat]
    rfl
  | grouped groups size =>
    rw [nodePlacements_grouped, List.find?_map, Option.map_map]
    rfl

/-! ## One node and all nodes -/

theorem nodeRect?_eq_of_count_le_one {a : Arrangement α} {id : String}
    (h : (a.nodePlacements.map Prod.fst).count id ≤ 1) : a.nodeRect? id = a.flatten.get? id := by
  rw [nodeRect?_eq, flatten, Dictionary.get?_ofList, find?_key_reverse h]

theorem get?_flatten {a : Arrangement α} (h : (a.nodePlacements.map Prod.fst).Nodup) (id : String) :
    a.flatten.get? id = a.nodeRect? id :=
  (nodeRect?_eq_of_count_le_one (List.nodup_iff_count_le_one.1 h id)).symm

theorem isSome_get?_flatten_iff {a : Arrangement α} {id : String} :
    (a.flatten.get? id).isSome = true ↔ id ∈ a.nodePlacements.map Prod.fst := by
  rw [Option.isSome_iff_exists, ← Dictionary.mem_keys_iff, flatten, Dictionary.mem_keys_ofList]

theorem size_flatten {nodes : List String} {a : Arrangement α}
    (h : ∀ id, id ∈ a.nodePlacements.map Prod.fst ↔ id ∈ nodes) :
    a.flatten.size = nodes.dedup.length := by
  have hkeys : a.flatten.keys.Perm nodes.dedup :=
    (List.perm_ext_iff_of_nodup a.flatten.nodup_keys (List.nodup_dedup _)).2 fun id => by
      rw [flatten, Dictionary.mem_keys_ofList, h, List.mem_dedup]
  rw [← hkeys.length_eq, Dictionary.keys, List.length_map, Dictionary.size]

theorem nodeCount_eq_size_iff {a : Arrangement α} :
    a.nodeCount = a.flatten.size ↔ (a.nodePlacements.map Prod.fst).Nodup := by
  rw [size_flatten fun _ => Iff.rfl, nodeCount_eq, ← List.length_map (f := Prod.fst),
    ← List.dedup_eq_self]
  constructor
  · exact fun h => (List.dedup_sublist _).eq_of_length h.symm
  · exact fun h => (congrArg List.length h).symm

/-! ## The nodes of a list -/

/-- The arrangement has the nodes of a list and no others, each with its size; a node that the list
names once is drawn once. -/
structure Shows (nodes : List String) (size : String → Size α) (a : Arrangement α) : Prop where
  mem_iff : ∀ id, id ∈ a.nodePlacements.map Prod.fst ↔ id ∈ nodes
  once : nodes.Nodup → (a.nodePlacements.map Prod.fst).Nodup
  size_eq : ∀ p ∈ a.nodePlacements, p.2.size = size p.1

theorem shows_flat {nodes : List String} {size : String → Size α} {rects : Dictionary (Rect α)}
    (hkeys : ∀ id, id ∈ rects.keys ↔ id ∈ nodes)
    (hsizes : ∀ p ∈ rects.entries, p.2.size = size p.1) : Shows nodes size (flat rects) where
  mem_iff := by
    rw [nodePlacements_flat]
    exact hkeys
  once _ := by
    rw [nodePlacements_flat]
    exact rects.nodup_keys
  size_eq := by
    rw [nodePlacements_flat]
    exact hsizes

theorem shows_flat_ofList {nodes : List String} {size : String → Size α}
    {l : List (String × Rect α)} (hids : l.map Prod.fst = nodes)
    (hsizes : ∀ p ∈ l, p.2.size = size p.1) : Shows nodes size (flat (.ofList l)) := by
  refine shows_flat (fun id => ?_) fun p hp => ?_
  · rw [Dictionary.mem_keys_ofList, hids]
  · exact hsizes p (Dictionary.mem_of_mem_entries_ofList hp)

section Shows
variable {nodes : List String} {size : String → Size α} {a : Arrangement α}

theorem Shows.exists_nodeRect? (h : Shows nodes size a) {id : String} (hid : id ∈ nodes) :
    ∃ rect, a.nodeRect? id = some rect ∧ rect.size = size id := by
  obtain ⟨p, hp, hpid⟩ := List.mem_map.1 ((h.mem_iff id).2 hid)
  rw [nodeRect?_eq]
  cases hfind : a.nodePlacements.find? fun p => p.1 == id with
  | none =>
    have hno := List.find?_eq_none.1 hfind p hp
    simp [hpid] at hno
  | some q =>
    have hq := h.size_eq q (List.mem_of_find?_eq_some hfind)
    have hqid : q.1 = id := by simpa using List.find?_some hfind
    exact ⟨q.2, rfl, hqid ▸ hq⟩

theorem Shows.isSome_nodeRect?_iff (h : Shows nodes size a) {id : String} :
    (a.nodeRect? id).isSome = true ↔ id ∈ nodes := by
  constructor
  · intro hsome
    rw [nodeRect?_eq, Option.isSome_map, List.find?_isSome] at hsome
    obtain ⟨p, hp, hpid⟩ := hsome
    exact (h.mem_iff id).1 (List.mem_map.2 ⟨p, hp, beq_iff_eq.1 hpid⟩)
  · intro hid
    obtain ⟨rect, hrect, -⟩ := h.exists_nodeRect? hid
    rw [hrect]
    rfl

theorem Shows.perm (h : Shows nodes size a) (hnodes : nodes.Nodup) :
    (a.nodePlacements.map Prod.fst).Perm nodes :=
  (List.perm_ext_iff_of_nodup (h.once hnodes) hnodes).2 h.mem_iff

theorem Shows.nodeCount (h : Shows nodes size a) (hnodes : nodes.Nodup) :
    a.nodeCount = nodes.length := by
  rw [nodeCount_eq, ← (h.perm hnodes).length_eq, List.length_map]

theorem Shows.keys_flatten (h : Shows nodes size a) (hnodes : nodes.Nodup) :
    a.flatten.keys.Perm nodes := by
  have hentries := Dictionary.entries_ofList_perm (h.once hnodes)
  exact (hentries.map Prod.fst).trans (h.perm hnodes)

end Shows

end Arrangement

end RefAtlas.Layout
