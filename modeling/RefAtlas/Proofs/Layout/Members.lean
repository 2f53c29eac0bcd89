import RefAtlas.Layout.Plan
import RefAtlas.Proofs.Dictionary

/-! # The members of groups

The groups of a plan share its nodes out: put one after the other, they name every node as often as
the plan does.

* `flatMap_filter_perm`: a list is shared out by a key.
* `Plan.members_perm`: the nodes of a plan, shared out by their groups.
-/

namespace RefAtlas
set_option autoImplicit false

/-! ## Sharing out by a key -/

theorem nodup_eraseDups {β : Type} [BEq β] [LawfulBEq β] (l : List β) : l.eraseDups.Nodup := by
  cases l with
  | nil => exact List.nodup_nil
  | cons x rest =>
    rw [List.eraseDups_cons, List.nodup_cons]
    refine ⟨fun hmem => ?_, nodup_eraseDups (rest.filter fun y => !y == x)⟩
    have hx := (List.mem_filter.1 (List.mem_eraseDups.1 hmem)).2
    simp at hx
termination_by l.length
decreasing_by exact Nat.lt_succ_of_le (List.length_filter_le _ _)

/-- Lists of members for different keys, put one after the other, are all members with one of these
keys. -/
theorem flatMap_filter_key_perm {β κ : Type} [BEq κ] [LawfulBEq κ] (key : β → κ) {keys : List κ}
    (h : keys.Nodup) (l : List β) :
    (keys.flatMap fun k => l.filter fun x => key x == k).Perm
      (l.filter fun x => keys.contains (key x)) := by
  induction keys with
  | nil => simp
  | cons k keys ih =>
    obtain ⟨hk, hkeys⟩ := List.nodup_cons.1 h
    have hsplit := List.filter_append_perm (fun x => key x == k)
      (l.filter fun x => (k :: keys).contains (key x))
    have hfirst : (l.filter fun x => (k :: keys).contains (key x)).filter (fun x => key x == k) =
        l.filter fun x => key x == k := by
      rw [List.filter_filter]
      refine List.filter_congr fun x _ => ?_
      cases hx : key x == k <;> simp [hx]
    have hrest : (l.filter fun x => (k :: keys).contains (key x)).filter (fun x => !(key x == k)) =
        l.filter fun x => keys.contains (key x) := by
      rw [List.filter_filter]
      refine List.filter_congr fun x _ => ?_
      by_cases hx : key x = k
      · simp [hx, hk]
      · simp [hx]
    rw [hfirst, hrest] at hsplit
    rw [List.flatMap_cons]
    exact ((ih hkeys).append_left _).trans hsplit

theorem flatMap_filter_perm {β κ : Type} [BEq κ] [LawfulBEq κ] (key : β → κ) (l : List β) :
    ((l.map key).eraseDups.flatMap fun k => l.filter fun x => key x == k).Perm l := by
  have hall : (l.filter fun x => (l.map key).eraseDups.contains (key x)) = l := by
    refine List.filter_eq_self.2 fun x hx => ?_
    rw [List.contains_iff_mem, List.mem_eraseDups]
    exact List.mem_map_of_mem hx
  have hperm := flatMap_filter_key_perm key (nodup_eraseDups (l.map key)) l
  rwa [hall] at hperm

/-! ## Groups of nodes -/

namespace Layout
variable {α : Type}

theorem Plan.members_perm (plan : Plan) (sizes : Dictionary (Size α)) (defaultSize : Size α) :
    ((plan.members sizes defaultSize).flatMap GroupMembers.nodes).Perm
      (plan.nodes.map fun id => (id, sizeOf sizes defaultSize id)) := by
  have hshared := flatMap_filter_perm Prod.fst
    (plan.nodes.map fun id => (plan.groups.get? id, id))
  have hsized := hshared.map fun n => (n.2, sizeOf sizes defaultSize n.2)
  have hids : (plan.nodes.map fun id => (plan.groups.get? id, id)).map
      (fun n => (n.2, sizeOf sizes defaultSize n.2)) =
        plan.nodes.map fun id => (id, sizeOf sizes defaultSize id) := by
    rw [List.map_map]
    rfl
  rw [List.map_flatMap, hids] at hsized
  rw [Plan.members, List.flatMap_map]
  exact hsized

end Layout

end RefAtlas
