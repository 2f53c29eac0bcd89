import RefAtlas.Proofs.Layout.Members

/-! # Grouping is a stable partition

The groups of a plan come in the order of their first nodes, each with its nodes in the order of the
plan. Having no group is a value like any other, whatever groups are called.

* `eraseDups_concat`, `pairwise_idxOf_eraseDups`: what is left without repetitions stands in the
  order in which it first occurs.
* `Plan.AreGroups`, `Plan.IsGroupOf`: the groups of a plan and the members of one, without reference
  to how they are computed.
* `fileUnder`, `foldl_fileUnder_eq`: the groups filled in one pass over the nodes.
* `Plan.members_stable_partition`: all of them agree.
-/

namespace RefAtlas
set_option autoImplicit false

/-! ## First occurrences -/

section EraseDups
variable {β : Type} [BEq β] [LawfulBEq β]

theorem eraseDups_concat (l : List β) (a : β) :
    (l ++ [a]).eraseDups = if l.contains a then l.eraseDups else l.eraseDups ++ [a] := by
  rw [List.eraseDups_append, List.removeAll, List.filter_singleton]
  by_cases ha : a ∈ l
  · simp [ha]
  · simp [ha, List.eraseDups_cons]

theorem pairwise_idxOf_eraseDups (l : List β) :
    l.eraseDups.Pairwise fun a b => l.idxOf a < l.idxOf b := by
  -- A member at the end changes no first place of the others, and a new one stands behind them all.
  induction l using List.reverseRecOn with
  | nil => exact List.Pairwise.nil
  | append_singleton l a ih =>
    have hold : l.eraseDups.Pairwise fun b c => (l ++ [a]).idxOf b < (l ++ [a]).idxOf c := by
      refine ih.imp_of_mem fun {b c} hb hc hlt => ?_
      rw [List.idxOf_append_of_mem (List.mem_eraseDups.1 hb),
        List.idxOf_append_of_mem (List.mem_eraseDups.1 hc)]
      exact hlt
    rw [eraseDups_concat]
    split
    · exact hold
    · next hnew =>
      refine List.pairwise_append.2 ⟨hold, List.pairwise_singleton _ _, fun b hb c hc => ?_⟩
      obtain rfl := List.mem_singleton.1 hc
      have hb' := List.mem_eraseDups.1 hb
      rw [List.idxOf_append_of_mem hb', List.idxOf_append_of_notMem (by simpa using hnew)]
      exact Nat.lt_add_right _ (List.idxOf_lt_length_of_mem hb')

end EraseDups

namespace Layout
variable {α : Type}

/-! ## Groups and members -/

/-- The group of each node of the plan, or that it has none. -/
def Plan.groupings (plan : Plan) : List (Option String) := plan.nodes.map plan.groups.get?

/-- The groups of the nodes, each once, in the order of their first nodes. -/
structure Plan.AreGroups (plan : Plan) (keys : List (Option String)) : Prop where
  mem_iff : ∀ key, key ∈ keys ↔ ∃ id ∈ plan.nodes, plan.groups.get? id = key
  inOrder : keys.Pairwise fun key later => plan.groupings.idxOf key < plan.groupings.idxOf later

/-- The members of a group are its nodes, in the order of the plan and as often as they are there,
each with its size or the standard one. -/
structure Plan.IsGroupOf (plan : Plan) (sizes : Dictionary (Size α)) (defaultSize : Size α)
    (key : Option String) (group : GroupMembers α) : Prop where
  name : group.name = key.getD ungrouped
  nodes : group.nodes = (plan.nodes.filter fun id => plan.groups.get? id == key).map fun id =>
    (id, (sizes.get? id).getD defaultSize)

section Plan
variable {plan : Plan} {sizes : Dictionary (Size α)} {defaultSize : Size α}

theorem Plan.areGroups_eraseDups (plan : Plan) : plan.AreGroups plan.groupings.eraseDups where
  mem_iff key := by rw [List.mem_eraseDups, groupings, List.mem_map]
  inOrder := pairwise_idxOf_eraseDups plan.groupings

/-- Only one list has the groups of the nodes in the order of the nodes. -/
theorem Plan.AreGroups.unique {keys keys' : List (Option String)} (h : plan.AreGroups keys)
    (h' : plan.AreGroups keys') : keys = keys' :=
  eq_of_mem_iff_of_pairwise (fun _ _ => Nat.lt_asymm) h.inOrder h'.inOrder fun key => by
    rw [h.mem_iff, h'.mem_iff]

theorem Plan.IsGroupOf.unique {key : Option String} {group group' : GroupMembers α}
    (h : plan.IsGroupOf sizes defaultSize key group)
    (h' : plan.IsGroupOf sizes defaultSize key group') : group = group' := by
  cases group
  cases group'
  obtain ⟨rfl, rfl⟩ := h
  obtain ⟨rfl, rfl⟩ := h'
  rfl

/-- The group of a value among the given nodes. -/
def groupAmong (plan : Plan) (sizes : Dictionary (Size α)) (defaultSize : Size α)
    (nodes : List String) (key : Option String) : GroupMembers α where
  name := key.getD ungrouped
  nodes := (nodes.filter fun id => plan.groups.get? id == key).map fun id =>
    (id, sizeOf sizes defaultSize id)

theorem isGroupOf_groupAmong (plan : Plan) (sizes : Dictionary (Size α)) (defaultSize : Size α)
    (key : Option String) :
    plan.IsGroupOf sizes defaultSize key (groupAmong plan sizes defaultSize plan.nodes key) :=
  ⟨rfl, rfl⟩

theorem Plan.members_eq (plan : Plan) (sizes : Dictionary (Size α)) (defaultSize : Size α) :
    plan.members sizes defaultSize =
      plan.groupings.eraseDups.map (groupAmong plan sizes defaultSize plan.nodes) := by
  rw [Plan.members, List.map_map, groupings]
  refine List.map_congr_left fun key _ => ?_
  rw [groupAmong, List.filter_map, List.map_map]
  rfl

theorem Plan.forall₂_members (plan : Plan) (sizes : Dictionary (Size α)) (defaultSize : Size α) :
    List.Forall₂ (plan.IsGroupOf sizes defaultSize) plan.groupings.eraseDups
      (plan.members sizes defaultSize) := by
  rw [members_eq, List.forall₂_map_right_iff]
  exact List.forall₂_same.2 fun key _ => isGroupOf_groupAmong plan sizes defaultSize key

theorem Plan.nodes_ne_nil_of_mem_members {group : GroupMembers α}
    (h : group ∈ plan.members sizes defaultSize) : group.nodes ≠ [] := by
  rw [members_eq] at h
  obtain ⟨key, hkey, rfl⟩ := List.mem_map.1 h
  obtain ⟨id, hid, hgroup⟩ := (plan.areGroups_eraseDups.mem_iff key).1 hkey
  have hmem : id ∈ plan.nodes.filter fun id => plan.groups.get? id == key :=
    List.mem_filter.2 ⟨hid, beq_iff_eq.2 hgroup⟩
  exact List.ne_nil_of_mem (List.mem_map_of_mem hmem)

end Plan

/-! ## One pass over the nodes -/

def GroupMembers.add (group : GroupMembers α) (node : String × Size α) : GroupMembers α :=
  { group with nodes := group.nodes ++ [node] }

/-- Puts a node at the end of the group of a value. The group is opened behind the others if it is
not there. -/
def fileUnder (key : Option String) (node : String × Size α) :
    List (Option String × GroupMembers α) → List (Option String × GroupMembers α)
  | [] => [(key, ⟨key.getD ungrouped, [node]⟩)]
  | (k, group) :: rest =>
    if k = key then (k, group.add node) :: rest else (k, group) :: fileUnder key node rest

/-- The groups of a plan, filled node by node. -/
def Plan.filed (plan : Plan) (sizes : Dictionary (Size α)) (defaultSize : Size α) :
    List (Option String × GroupMembers α) :=
  plan.nodes.foldl (fun filed id =>
    fileUnder (plan.groups.get? id) (id, sizeOf sizes defaultSize id) filed) []

section OnePass

/-- Filing changes one group, which is new if none has the value. -/
theorem fileUnder_map {key : Option String} (node : String × Size α) {keys : List (Option String)}
    {group : Option String → GroupMembers α} (hkeys : keys.Nodup)
    (hnew : key ∉ keys → group key = ⟨key.getD ungrouped, []⟩) :
    fileUnder key node (keys.map fun k => (k, group k)) =
      (if keys.contains key then keys else keys ++ [key]).map fun k =>
        (k, if key = k then (group k).add node else group k) := by
  induction keys with
  | nil =>
    have hgroup := hnew List.not_mem_nil
    simp [fileUnder, GroupMembers.add, hgroup]
  | cons k keys ih =>
    obtain ⟨hk, hrest⟩ := List.nodup_cons.1 hkeys
    rw [List.map_cons, fileUnder]
    by_cases hkey : k = key
    · subst hkey
      have hothers : ∀ k' ∈ keys, (k', if k = k' then (group k').add node else group k') =
          (k', group k') := by
        intro k' hk'
        have hne : k ≠ k' := fun heq => hk (heq ▸ hk')
        rw [if_neg hne]
      rw [if_pos rfl, List.contains_cons, beq_self_eq_true, Bool.true_or, if_pos rfl, List.map_cons,
        if_pos rfl, List.map_congr_left hothers]
    · have htail := ih hrest fun hmem => hnew fun hmem' =>
        hmem ((List.mem_cons.1 hmem').resolve_left (Ne.symm hkey))
      have hsame : (key == k) = false := beq_false_of_ne (Ne.symm hkey)
      rw [if_neg hkey, htail, List.contains_cons, hsame, Bool.false_or]
      split
      · rw [List.map_cons, if_neg (Ne.symm hkey)]
      · rw [List.cons_append, List.map_cons, if_neg (Ne.symm hkey)]

theorem groupAmong_concat (plan : Plan) (sizes : Dictionary (Size α)) (defaultSize : Size α)
    (nodes : List String) (id : String) (key : Option String) :
    groupAmong plan sizes defaultSize (nodes ++ [id]) key =
      if plan.groups.get? id = key then
        (groupAmong plan sizes defaultSize nodes key).add (id, sizeOf sizes defaultSize id)
      else groupAmong plan sizes defaultSize nodes key := by
  rw [groupAmong, List.filter_append, List.map_append, List.filter_singleton]
  by_cases hkey : plan.groups.get? id = key
  · rw [if_pos hkey, beq_iff_eq.2 hkey]
    rfl
  · rw [if_neg hkey, beq_false_of_ne hkey]
    exact congrArg (GroupMembers.mk _) (List.append_nil _)

theorem groupAmong_of_not_mem {plan : Plan} (sizes : Dictionary (Size α)) (defaultSize : Size α)
    {nodes : List String} {key : Option String} (h : key ∉ nodes.map plan.groups.get?) :
    groupAmong plan sizes defaultSize nodes key = ⟨key.getD ungrouped, []⟩ := by
  have hnone : (nodes.filter fun id => plan.groups.get? id == key) = [] := by
    refine List.filter_eq_nil_iff.2 fun id hid hgroup => h ?_
    exact List.mem_map.2 ⟨id, hid, beq_iff_eq.1 hgroup⟩
  rw [groupAmong, hnone, List.map_nil]

/-- After any number of nodes, every value that occurred has its group among these nodes. -/
theorem foldl_fileUnder_eq (plan : Plan) (sizes : Dictionary (Size α)) (defaultSize : Size α)
    (nodes : List String) :
    (nodes.foldl (fun filed id =>
      fileUnder (plan.groups.get? id) (id, sizeOf sizes defaultSize id) filed) []) =
      (nodes.map plan.groups.get?).eraseDups.map fun key =>
        (key, groupAmong plan sizes defaultSize nodes key) := by
  induction nodes using List.reverseRecOn with
  | nil => rfl
  | append_singleton nodes id ih =>
    have hcontains : (nodes.map plan.groups.get?).eraseDups.contains (plan.groups.get? id) =
        (nodes.map plan.groups.get?).contains (plan.groups.get? id) := by
      simp [List.mem_eraseDups]
    rw [List.foldl_append, List.foldl_cons, List.foldl_nil, ih,
      fileUnder_map _ (nodup_eraseDups _) fun hnew => groupAmong_of_not_mem sizes defaultSize
        fun hmem => hnew (List.mem_eraseDups.2 hmem),
      hcontains, List.map_append, List.map_singleton, eraseDups_concat]
    refine List.map_congr_left fun key _ => ?_
    rw [groupAmong_concat]

theorem Plan.members_eq_filed (plan : Plan) (sizes : Dictionary (Size α)) (defaultSize : Size α) :
    plan.members sizes defaultSize = (plan.filed sizes defaultSize).map Prod.snd := by
  rw [filed, foldl_fileUnder_eq, members_eq, List.map_map]
  rfl

end OnePass

/-! ## The partition -/

/-- The groups of a plan are determined by the plan: one for each group that a node has, and one if
some node has none, in the order of the first nodes; no group is empty, and together they name the
nodes of the plan as often as it does. They are filled in one pass over the nodes. -/
theorem Plan.members_stable_partition (plan : Plan) (sizes : Dictionary (Size α))
    (defaultSize : Size α) :
    (∀ groups, groups = plan.members sizes defaultSize ↔ ∃ keys, plan.AreGroups keys ∧
      List.Forall₂ (plan.IsGroupOf sizes defaultSize) keys groups) ∧
    (∀ group ∈ plan.members sizes defaultSize, group.nodes ≠ []) ∧
    (((plan.members sizes defaultSize).flatMap GroupMembers.nodes).map Prod.fst).Perm plan.nodes ∧
    plan.members sizes defaultSize = (plan.filed sizes defaultSize).map Prod.snd := by
  have hgroups := plan.areGroups_eraseDups
  have hmembers := plan.forall₂_members sizes defaultSize
  have hids : (plan.nodes.map fun id => (id, sizeOf sizes defaultSize id)).map Prod.fst =
      plan.nodes := by
    rw [List.map_map]
    exact List.map_id _
  refine ⟨fun groups => ⟨?_, ?_⟩, fun group => nodes_ne_nil_of_mem_members,
    hids ▸ (plan.members_perm sizes defaultSize).map Prod.fst,
    plan.members_eq_filed sizes defaultSize⟩
  · rintro rfl
    exact ⟨_, hgroups, hmembers⟩
  · rintro ⟨keys, hkeys, hall⟩
    obtain rfl := hkeys.unique hgroups
    exact List.right_unique_forall₂' (fun _ _ _ h h' => h.unique h') hall hmembers

/-- A group that is called like the nodes without one, and a node that is named twice. -/
def namedUngrouped : Plan where
  nodes := ["Cart", "Item", "Shop", "Item", "Till"]
  groups := .ofList [("Cart", ungrouped), ("Shop", "sales"), ("Till", ungrouped)]
  edges := []
  hidden := []

theorem map_members_namedUngrouped :
    (namedUngrouped.members (.ofList [("Till", ⟨3, 4⟩)]) ⟨1, 2⟩).map (fun g => (g.name, g.nodes)) =
      [("ungrouped", [("Cart", ⟨1, 2⟩), ("Till", ⟨3, 4⟩)]),
        ("ungrouped", [("Item", ⟨1, 2⟩), ("Item", ⟨1, 2⟩)]), ("sales", [("Shop", ⟨1, 2⟩)])] := by
  decide

theorem Plan.members_stable_partition_namedUngrouped :
    let members := namedUngrouped.members (.ofList [("Till", ⟨3, 4⟩)]) ⟨1, 2⟩
    (∃ keys, namedUngrouped.AreGroups keys ∧ keys.length = 3) ∧
    ∃ group ∈ members, group.name = "sales" ∧ group.nodes ≠ [] := by
  intro members
  obtain ⟨hgroups, hfilled, -⟩ :=
    namedUngrouped.members_stable_partition (.ofList [("Till", ⟨3, 4⟩)]) ⟨1, 2⟩
  obtain ⟨keys, hkeys, hall⟩ := (hgroups members).1 rfl
  have hlength := congrArg List.length map_members_namedUngrouped
  rw [List.length_map] at hlength
  have hsales : ("sales", [("Shop", Size.mk 1 2)]) ∈ members.map fun g => (g.name, g.nodes) := by
    rw [map_members_namedUngrouped]
    decide
  obtain ⟨group, hmem, heq⟩ := List.mem_map.1 hsales
  exact ⟨⟨keys, hkeys, hall.length_eq.trans hlength⟩, group, hmem, (Prod.mk.inj heq).1,
    hfilled group hmem⟩

end Layout

end RefAtlas
