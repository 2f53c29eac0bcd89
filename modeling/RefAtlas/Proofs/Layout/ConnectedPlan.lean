import RefAtlas.Layout.Plan
import RefAtlas.Proofs.Graph.Connected
import RefAtlas.Proofs.Graph.Reading
import RefAtlas.Proofs.Layout.Motion
import RefAtlas.Proofs.Number.Rational

/-! # Plans without isolated nodes

A plan may leave out the nodes without edges. As no edge ends at one of them, the simulation of such
a plan runs on the edges of the whole graph, only under other numbers.

* `numberAmong`, `idxOf_filter`: the number of a member of a list among those that are kept.
* `springsOf_eq_map`: edges between different nodes of a list are all simulated;
  `springsOf_filter`: under new numbers if only some nodes are kept.
* `connectedOnly_keeps_springs`: the two parts of the nodes, and the plan of the first.
-/

namespace RefAtlas
set_option autoImplicit false

/-! ## Numbers among those that are kept -/

/-- How many of the members in front of the `i`-th are kept: the number that it has among the kept
ones if it is one of them. -/
def numberAmong {β : Type} (keep : β → Bool) (l : List β) (i : Nat) : Nat := (l.take i).countP keep

section NumberAmong
variable {β : Type} {keep : β → Bool}

theorem numberAmong_cons_succ (a : β) (l : List β) (i : Nat) :
    numberAmong keep (a :: l) (i + 1) = numberAmong keep l i + if keep a then 1 else 0 := by
  rw [numberAmong, List.take_succ_cons, List.countP_cons]
  rfl

theorem getElem?_filter_numberAmong {l : List β} {i : Nat} {a : β} (h : l[i]? = some a)
    (ha : keep a = true) : (l.filter keep)[numberAmong keep l i]? = some a := by
  induction l generalizing i with
  | nil => cases h
  | cons b l ih =>
    cases i with
    | zero =>
      obtain rfl : b = a := Option.some.inj h
      rw [List.filter_cons_of_pos ha]
      rfl
    | succ i =>
      have hl := ih h
      rw [numberAmong_cons_succ]
      cases hb : keep b with
      | true =>
        rw [List.filter_cons_of_pos hb]
        exact hl
      | false =>
        rw [List.filter_cons_of_neg (Bool.not_eq_true _ ▸ hb)]
        exact hl

/-- Of two members that are kept, the earlier one has the smaller number. -/
theorem numberAmong_lt {l : List β} {i j : Nat} {a : β} (h : l[i]? = some a) (ha : keep a = true)
    (hij : i < j) : numberAmong keep l i < numberAmong keep l j := by
  induction l generalizing i j with
  | nil => cases h
  | cons b l ih =>
    obtain ⟨j, rfl⟩ := Nat.exists_eq_succ_of_ne_zero (Nat.ne_zero_of_lt hij)
    rw [Nat.succ_eq_add_one, numberAmong_cons_succ]
    cases i with
    | zero =>
      obtain rfl : b = a := Option.some.inj h
      rw [if_pos ha]
      exact Nat.succ_pos _
    | succ i =>
      rw [numberAmong_cons_succ]
      exact Nat.add_lt_add_right (ih h (Nat.lt_of_succ_lt_succ hij)) _

theorem idxOf_filter [BEq β] [LawfulBEq β] {l : List β} {a : β} (hmem : a ∈ l)
    (ha : keep a = true) : (l.filter keep).idxOf a = numberAmong keep l (l.idxOf a) := by
  induction l with
  | nil => cases hmem
  | cons b l ih =>
    by_cases hb : b = a
    · subst hb
      rw [List.filter_cons_of_pos ha, List.idxOf_cons_self, List.idxOf_cons_self]
      rfl
    · have hl := ih ((List.mem_cons.1 hmem).resolve_left (Ne.symm hb))
      rw [List.idxOf_cons_ne _ hb, Nat.succ_eq_add_one, numberAmong_cons_succ, ← hl]
      cases hkeep : keep b with
      | true =>
        rw [List.filter_cons_of_pos hkeep, List.idxOf_cons_ne _ hb]
        rfl
      | false =>
        rw [List.filter_cons_of_neg (Bool.not_eq_true _ ▸ hkeep)]
        rfl

end NumberAmong

theorem eraseDups_of_nodup {β : Type} [BEq β] [LawfulBEq β] {l : List β} (h : l.Nodup) :
    l.eraseDups = l := by
  induction l with
  | nil => rfl
  | cons a l ih =>
    obtain ⟨ha, hl⟩ := List.nodup_cons.1 h
    have hrest : (l.filter fun b => !b == a) = l := by
      refine List.filter_eq_self.2 fun b hb => ?_
      have hne : b ≠ a := fun heq => ha (heq ▸ hb)
      simpa using hne
    rw [List.eraseDups_cons, hrest, ih hl]

namespace Layout
open RefAtlas.Graph RefAtlas.Number

/-! ## Springs -/

section Springs
variable {ids : List String} {edges : List Edge}

/-- The edges join different nodes of the list. -/
def Joins (ids : List String) (edges : List Edge) : Prop :=
  ∀ e ∈ edges, e.source ∈ ids ∧ e.target ∈ ids ∧ e.source ≠ e.target

/-- The spring between the places that the ends of an edge have in the list. -/
def springAt (ids : List String) (e : Edge) : Spring := ⟨ids.idxOf e.source, ids.idxOf e.target⟩

theorem idxOf?_of_mem {id : String} (h : id ∈ ids) : ids.idxOf? id = some (ids.idxOf id) := by
  obtain ⟨i, hi⟩ := Option.isSome_iff_exists.1 (List.isSome_idxOf?.2 h)
  rw [List.idxOf_eq_getD_idxOf?, hi]
  rfl

theorem springsOf_eq_map (h : Joins ids edges) :
    springsOf ids edges = edges.map (springAt ids) := by
  rw [springsOf, ← List.filterMap_eq_map]
  refine List.filterMap_congr fun e he => ?_
  obtain ⟨hs, ht, hne⟩ := h e he
  have hplaces : ids.idxOf e.source ≠ ids.idxOf e.target := fun heq =>
    hne (List.idxOf_inj hs |>.1 heq)
  rw [idxOf?_of_mem hs, idxOf?_of_mem ht]
  simp [hplaces, springAt]

def Spring.renumber (number : Nat → Nat) (s : Spring) : Spring := ⟨number s.source, number s.target⟩

/-- If only some nodes are kept, among them all ends of edges, the springs get new numbers. -/
theorem springsOf_filter {keep : String → Bool} (h : Joins ids edges)
    (hkeep : ∀ e ∈ edges, keep e.source = true ∧ keep e.target = true) :
    springsOf (ids.filter keep) edges =
      (springsOf ids edges).map (Spring.renumber (numberAmong keep ids)) := by
  have hkept : Joins (ids.filter keep) edges := by
    intro e he
    obtain ⟨hs, ht, hne⟩ := h e he
    exact ⟨List.mem_filter.2 ⟨hs, (hkeep e he).1⟩, List.mem_filter.2 ⟨ht, (hkeep e he).2⟩, hne⟩
  rw [springsOf_eq_map hkept, springsOf_eq_map h, List.map_map]
  refine List.map_congr_left fun e he => ?_
  obtain ⟨hs, ht, -⟩ := h e he
  rw [springAt, idxOf_filter hs (hkeep e he).1, idxOf_filter ht (hkeep e he).2]
  rfl

end Springs

/-! ## The plan of a graph -/

section Graph
variable {g : ReferenceGraph}

theorem joins_edges (h : g.Coherent) : Joins g.nodeIds g.edges := by
  intro e he
  have hedge := h.mem_edges_iff.1 he
  obtain ⟨hs, ht⟩ := h.mem_nodeIds_of_hasEdge hedge
  refine ⟨hs, ht, fun heq => ?_⟩
  obtain ⟨i, j, hi, hj, hlink⟩ := ReferenceGraph.hasEdge_iff.1 hedge
  rw [heq, hj] at hi
  exact h.ne _ hlink (Option.some.inj hi).symm

theorem nodes_connectedOnly (g : ReferenceGraph) :
    (Plan.connectedOnly g).nodes = g.nodeIds.filter g.isConnected := by
  change g.partitionConnected.1 = _
  rw [ReferenceGraph.partitionConnected, List.partition_eq_filter_filter]

theorem hidden_connectedOnly (g : ReferenceGraph) :
    (Plan.connectedOnly g).hidden = g.nodeIds.filter (not ∘ g.isConnected) := by
  change g.partitionConnected.2 = _
  rw [ReferenceGraph.partitionConnected, List.partition_eq_filter_filter]

theorem isConnected_ends (h : g.Coherent) :
    ∀ e ∈ g.edges, g.isConnected e.source = true ∧ g.isConnected e.target = true := fun e he =>
  ⟨h.isConnected_iff.2 ⟨e, he, .inl rfl⟩, h.isConnected_iff.2 ⟨e, he, .inr rfl⟩⟩

theorem mem_nodes_connectedOnly_iff (h : g.Coherent) {id : String} :
    id ∈ (Plan.connectedOnly g).nodes ↔ ∃ e ∈ g.edges, e.source = id ∨ e.target = id := by
  rw [nodes_connectedOnly, List.mem_filter, h.isConnected_iff]
  refine and_iff_right_of_imp ?_
  rintro ⟨e, he, rfl | rfl⟩
  · exact (joins_edges h e he).1
  · exact (joins_edges h e he).2.1

end Graph

def Plan.springs (plan : Plan) : List Spring := springsOf plan.nodes.eraseDups plan.edges

/-- After any calls, the nodes of a graph fall into two parts, each in the order of the nodes: those
with an edge, which the plan keeps, and the others. No edge of the plan ends outside of it, so every
edge is simulated, and the simulated edges are those of the whole graph under the numbers that the
kept nodes have among themselves. -/
theorem connectedOnly_keeps_springs {α : Type} [Scalar α] (calls : List Call) :
    let g := ReferenceGraph.empty.run calls
    let plan := Plan.connectedOnly g
    let whole := Plan.ofGraph g
    let number := numberAmong g.isConnected g.nodeIds
    ((plan.nodes, plan.hidden) = g.partitionConnected ∧
      plan.nodes.Sublist g.nodeIds ∧ plan.hidden.Sublist g.nodeIds ∧
      plan.nodes.Disjoint plan.hidden ∧ (plan.nodes ++ plan.hidden).Perm g.nodeIds) ∧
    (∀ id, id ∈ plan.nodes ↔ ∃ e ∈ g.edges, e.source = id ∨ e.target = id) ∧
    plan.edges = g.edges ∧ (∀ e ∈ plan.edges, e.source ∈ plan.nodes ∧ e.target ∈ plan.nodes) ∧
    plan.springs = plan.edges.map (springAt plan.nodes) ∧
    plan.springs = whole.springs.map (Spring.renumber number) ∧
    (∀ i id, whole.nodes[i]? = some id → id ∈ plan.nodes →
      plan.nodes[number i]? = some id ∧ ∀ j, i < j → number i < number j) ∧
    ∀ config : ForceConfig α, config.validate = .ok () →
      simulate plan.nodes plan.edges config = .ok (.ofMotion plan.nodes
        ((Motion.start (startPlaces config plan.nodes.length)).after config plan.springs
          config.steps)) := by
  intro g plan whole number
  have h : g.Coherent := (ReferenceGraph.records_run calls).coherent
  have hjoins := joins_edges h
  have hconnected := isConnected_ends h
  have hnodes : plan.nodes = g.nodeIds.filter g.isConnected := nodes_connectedOnly g
  have hhidden : plan.hidden = g.nodeIds.filter (not ∘ g.isConnected) := hidden_connectedOnly g
  have hdistinct : plan.nodes.eraseDups = plan.nodes := by
    rw [hnodes]
    exact eraseDups_of_nodup (h.nodup_nodeIds.filter _)
  have hkept : ∀ e ∈ plan.edges, e.source ∈ plan.nodes ∧ e.target ∈ plan.nodes := fun e he =>
    ⟨(mem_nodes_connectedOnly_iff h).2 ⟨e, he, .inl rfl⟩,
      (mem_nodes_connectedOnly_iff h).2 ⟨e, he, .inr rfl⟩⟩
  refine ⟨⟨rfl, ?_, ?_, ?_, ReferenceGraph.perm_partitionConnected g⟩,
    fun id => mem_nodes_connectedOnly_iff h, rfl, hkept, ?_, ?_, ?_, ?_⟩
  · rw [hnodes]
    exact List.filter_sublist
  · rw [hhidden]
    exact List.filter_sublist
  · rw [hnodes, hhidden]
    intro id hid hid'
    have hkeep := (List.mem_filter.1 hid).2
    have hleave := (List.mem_filter.1 hid').2
    simp [hkeep] at hleave
  · rw [Plan.springs, hdistinct]
    exact springsOf_eq_map fun e he => ⟨(hkept e he).1, (hkept e he).2, (hjoins e he).2.2⟩
  · have hwhole : whole.nodes.eraseDups = g.nodeIds := eraseDups_of_nodup h.nodup_nodeIds
    rw [Plan.springs, Plan.springs, hdistinct, hwhole, hnodes]
    exact springsOf_filter hjoins hconnected
  · intro i id hid hmem
    have hkeep : g.isConnected id = true := (List.mem_filter.1 (hnodes ▸ hmem)).2
    rw [hnodes]
    exact ⟨getElem?_filter_numberAmong hid hkeep, fun j => numberAmong_lt hid hkeep⟩
  · intro config hvalid
    rw [simulate_eq_ok plan.nodes plan.edges hvalid, Plan.springs, hdistinct]

/-- A node without an edge between two nodes that are joined, the later one to the earlier. -/
def tillBetween : List Call :=
  [.addNode (.ofId "Cart"), .addNode (.ofId "Till"), .addNode (.ofId "Item"),
    .addEdge "Item" "Cart"]

theorem run_tillBetween :
    (ReferenceGraph.empty.run tillBetween).nodes = #[.ofId "Cart", .ofId "Till", .ofId "Item"] ∧
    (ReferenceGraph.empty.run tillBetween).links = [(2, 0)] := by
  simp [tillBetween, ReferenceGraph.run, ReferenceGraph.make, ReferenceGraph.settle,
    ReferenceGraph.addNode, ReferenceGraph.addEdge, ReferenceGraph.contains, ReferenceGraph.find?,
    ReferenceGraph.findOrFault, ReferenceGraph.empty, Node.ofId, Except.map, bind, Except.bind,
    pure, Except.pure, Std.HashMap.getElem_insert]

theorem edges_tillBetween :
    (ReferenceGraph.empty.run tillBetween).edges = [⟨"Item", "Cart"⟩] := by
  obtain ⟨hnodes, hlinks⟩ := run_tillBetween
  rw [ReferenceGraph.edges, hlinks]
  simp [ReferenceGraph.idAt, hnodes, Node.ofId]

theorem connectedOnly_keeps_springs_tillBetween :
    let g := ReferenceGraph.empty.run tillBetween
    let plan := Plan.connectedOnly g
    let number := numberAmong g.isConnected g.nodeIds
    ⟨"Item", "Cart"⟩ ∈ plan.edges ∧ "Item" ∈ plan.nodes ∧ "Cart" ∈ plan.nodes ∧
    (Plan.ofGraph g).nodes[0]? = some "Cart" ∧ plan.nodes[number 0]? = some "Cart" ∧
    0 < 2 ∧ number 0 < number 2 ∧
    (ForceConfig.standard (α := ℚ)).validate = .ok () ∧
    ∃ layout, simulate plan.nodes plan.edges (ForceConfig.standard (α := ℚ)) = .ok layout := by
  intro g plan number
  obtain ⟨-, -, hedges, hkept, -, -, hnumber, hsimulate⟩ :=
    connectedOnly_keeps_springs (α := ℚ) tillBetween
  have hedge : ⟨"Item", "Cart"⟩ ∈ plan.edges := by
    rw [hedges, edges_tillBetween]
    exact List.mem_singleton.2 rfl
  obtain ⟨hitem, hcart⟩ := hkept _ hedge
  have hfirst : (Plan.ofGraph g).nodes[0]? = some "Cart" := by
    change (g.nodes.toList.map Node.id)[0]? = _
    rw [run_tillBetween.1]
    rfl
  obtain ⟨hsame, hless⟩ := hnumber 0 "Cart" hfirst hcart
  have hvalid : (ForceConfig.standard (α := ℚ)).validate = .ok () := by decide +kernel
  exact ⟨hedge, hitem, hcart, hfirst, hsame, Nat.two_pos, hless 2 Nat.two_pos, hvalid, _,
    hsimulate _ hvalid⟩

end Layout

end RefAtlas
