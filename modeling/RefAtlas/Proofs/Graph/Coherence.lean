import RefAtlas.Graph.Query
import RefAtlas.Proofs.Dictionary
import Std.Data.HashMap.Lemmas

/-! # Graphs whose parts fit together

A graph keeps its nodes twice, by number and by id, and its edges by numbers. `Coherent` says that
these fit together; every operation keeps it, and says what it does to the edges between ids.

* `addNode_spec`, `addEdge_spec`: what the operations do.
* `hasEdge_iff`, `Coherent.mem_edges_iff`, `Coherent.mem_dependencies_iff`,
  `Coherent.mem_dependents_iff`: the ways to read the edges agree.
* `Coherent.pairwise_edges` and the like: what is read is strictly increasing, so graphs with the
  same edges are read alike (`Coherent.edges_eq`, `Coherent.dependencies_eq`,
  `Coherent.dependents_eq`).
-/

namespace RefAtlas.Graph
set_option autoImplicit false

/-! ## The order of edges -/

def Edge.Lt (e f : Edge) : Prop :=
  e.source < f.source ∨ e.source = f.source ∧ e.target < f.target

theorem Edge.le_iff (e f : Edge) : e.le f = true ↔
    e.source < f.source ∨ e.source = f.source ∧ e.target ≤ f.target := by
  simp [Edge.le]

theorem Edge.trans (e f k : Edge) (hef : e.le f = true) (hfk : f.le k = true) :
    e.le k = true := by
  rw [Edge.le_iff] at hef hfk ⊢
  rcases hef with hef | ⟨hef, hef'⟩
  · rcases hfk with hfk | ⟨hfk, -⟩
    · exact .inl (lt_trans hef hfk)
    · exact .inl (hfk ▸ hef)
  · rcases hfk with hfk | ⟨hfk, hfk'⟩
    · exact .inl (hef ▸ hfk)
    · exact .inr ⟨hef.trans hfk, le_trans hef' hfk'⟩

theorem Edge.total (e f : Edge) : (e.le f || f.le e) = true := by
  rw [Bool.or_eq_true, Edge.le_iff, Edge.le_iff]
  rcases lt_trichotomy e.source f.source with h | h | h
  · exact .inl (.inl h)
  · rcases le_total e.target f.target with h' | h'
    · exact .inl (.inr ⟨h, h'⟩)
    · exact .inr (.inr ⟨h.symm, h'⟩)
  · exact .inr (.inl h)

theorem Edge.lt_of_le {e f : Edge} (h : e.le f = true) (hne : e ≠ f) : e.Lt f := by
  rcases (Edge.le_iff e f).1 h with h | ⟨hs, ht⟩
  · exact .inl h
  · refine .inr ⟨hs, lt_of_le_of_ne ht fun heq => hne ?_⟩
    cases e
    cases f
    cases hs
    cases heq
    rfl

theorem Edge.asymm (e f : Edge) (h : e.Lt f) : ¬ f.Lt e := by
  rintro (h' | ⟨hs', ht'⟩)
  · rcases h with h | ⟨hs, -⟩
    · exact lt_asymm h h'
    · exact lt_irrefl _ (hs ▸ h')
  · rcases h with h | ⟨-, ht⟩
    · exact lt_irrefl _ (hs' ▸ h)
    · exact lt_asymm ht ht'

namespace ReferenceGraph

theorem pairwise_sortIds {ids : List String} (h : ids.Nodup) :
    (sortIds ids).Pairwise (· < ·) := by
  have hsorted : (sortIds ids).Pairwise fun a b => decide (a ≤ b) = true :=
    List.pairwise_mergeSort (by simpa using fun a b c => le_trans) (by simpa using le_total) ids
  have hnodup : (sortIds ids).Nodup := (List.mergeSort_perm ids _).nodup_iff.2 h
  exact hsorted.imp₂ (fun a b hab hne => lt_of_le_of_ne (of_decide_eq_true hab) hne) hnodup

theorem mem_sortIds {ids : List String} {id : String} : id ∈ sortIds ids ↔ id ∈ ids :=
  List.mem_mergeSort

/-! ## Coherent graphs -/

/-- The nodes by number and by id are the same, and the edges join two of them, no pair twice. -/
structure Coherent (g : ReferenceGraph) : Prop where
  find?_iff : ∀ id i, g.find? id = some i ↔ g.nodes[i]?.map Node.id = some id
  bounds : ∀ l ∈ g.links, l.1 < g.nodes.size ∧ l.2 < g.nodes.size
  ne : ∀ l ∈ g.links, l.1 ≠ l.2
  nodup : g.links.Nodup

theorem coherent_empty : Coherent empty where
  find?_iff id i := by simp [find?, empty]
  bounds l hl := by cases hl
  ne l hl := by cases hl
  nodup := List.nodup_nil

theorem contains_iff {g : ReferenceGraph} {id : String} :
    g.contains id = true ↔ ∃ i, g.find? id = some i := Option.isSome_iff_exists

section Coherent
variable {g : ReferenceGraph}

theorem Coherent.lt_of_find? (h : Coherent g) {id : String} {i : Nat} (hi : g.find? id = some i) :
    i < g.nodes.size := by
  obtain ⟨node, hnode, -⟩ := Option.map_eq_some_iff.1 ((h.find?_iff id i).1 hi)
  exact (Array.getElem?_eq_some_iff.1 hnode).1

theorem Coherent.idAt_of_find? (h : Coherent g) {id : String} {i : Nat}
    (hi : g.find? id = some i) : g.idAt i = id := by
  rw [idAt, (h.find?_iff id i).1 hi]
  rfl

theorem Coherent.find?_idAt (h : Coherent g) {i : Nat} (hi : i < g.nodes.size) :
    g.find? (g.idAt i) = some i := by
  rw [h.find?_iff, idAt, Array.getElem?_eq_getElem hi]
  rfl

theorem Coherent.idAt_inj (h : Coherent g) {i j : Nat} (hi : i < g.nodes.size)
    (hj : j < g.nodes.size) (hij : g.idAt i = g.idAt j) : i = j := by
  have hfind := h.find?_idAt hi
  rw [hij, h.find?_idAt hj] at hfind
  exact (Option.some.inj hfind).symm

theorem Coherent.contains_iff_mem (h : Coherent g) {id : String} :
    g.contains id = true ↔ id ∈ g.nodeIds := by
  rw [contains_iff, nodeIds, List.mem_map]
  constructor
  · rintro ⟨i, hi⟩
    obtain ⟨node, hnode, hid⟩ := Option.map_eq_some_iff.1 ((h.find?_iff id i).1 hi)
    exact ⟨node, Array.mem_toList_iff.2 (Array.mem_of_getElem? hnode), hid⟩
  · rintro ⟨node, hnode, hid⟩
    obtain ⟨i, hi⟩ := Array.getElem?_of_mem (Array.mem_toList_iff.1 hnode)
    exact ⟨i, (h.find?_iff id i).2 (by rw [hi, Option.map_some, hid])⟩

theorem Coherent.nodup_nodeIds (h : Coherent g) : g.nodeIds.Nodup := by
  have hfind : ∀ i (hi : i < g.nodeIds.length), g.find? g.nodeIds[i] = some i := by
    intro i hi
    have hsize : i < g.nodes.size := by simpa [nodeIds] using hi
    rw [h.find?_iff]
    simp [nodeIds, hsize]
  refine List.nodup_iff_injective_getElem.2 fun i j hij => Fin.ext ?_
  have hi := hfind i i.isLt
  have hids : g.nodeIds[i.val] = g.nodeIds[j.val] := hij
  rw [hids, hfind j j.isLt] at hi
  exact (Option.some.inj hi).symm

theorem find?_eq_none_of_not_contains {id : String} (h : g.contains id = false) :
    g.find? id = none := by
  unfold contains at h
  exact Option.isSome_eq_false_iff.1 h |> Option.isNone_iff_eq_none.1

theorem hasEdge_iff {s t : String} : g.hasEdge s t = true ↔
    ∃ i j, g.find? s = some i ∧ g.find? t = some j ∧ (i, j) ∈ g.links := by
  unfold hasEdge
  cases hs : g.find? s with
  | none => simp
  | some i =>
    cases ht : g.find? t with
    | none => simp
    | some j => simp

theorem hasEdge_iff_mem_links {s t : String} {i j : Nat} (hs : g.find? s = some i)
    (ht : g.find? t = some j) : g.hasEdge s t = true ↔ (i, j) ∈ g.links := by
  unfold hasEdge
  rw [hs, ht]
  exact List.contains_iff_mem

/-! ## Adding a node -/

theorem addNode_of_fresh {node : Node} (hfresh : g.contains node.id = false) :
    g.addNode node = .ok ({ g with
      nodes := g.nodes.push node, index := g.index.insert node.id g.nodes.size },
      g.nodes.size) := by
  unfold addNode
  rw [hfresh]
  rfl

theorem Coherent.pushNode (h : Coherent g) {node : Node} (hfresh : g.contains node.id = false) :
    Coherent { g with
      nodes := g.nodes.push node, index := g.index.insert node.id g.nodes.size } where
  find?_iff id i := by
    have hold := h.find?_iff id i
    rw [find?, Std.HashMap.getElem?_insert, Array.getElem?_push]
    by_cases hid : node.id = id
    · subst hid
      rw [find?_eq_none_of_not_contains hfresh] at hold
      by_cases hi : i = g.nodes.size
      · simp [hi]
      · rw [if_pos (beq_self_eq_true _), if_neg hi, ← hold]
        simp [Ne.symm hi]
    · rw [if_neg (by simpa using hid)]
      by_cases hi : i = g.nodes.size
      · rw [if_pos hi, Option.map_some]
        constructor
        · intro hfind
          have hlt := h.lt_of_find? hfind
          omega
        · intro heq
          exact absurd (Option.some.inj heq) hid
      · rw [if_neg hi]
        exact hold
  bounds l hl := by
    have hb := h.bounds l hl
    simp only [Array.size_push]
    omega
  ne := h.ne
  nodup := h.nodup

theorem Coherent.hasEdge_push (h : Coherent g) {g' : ReferenceGraph} (h' : Coherent g')
    {node : Node} (hnodes : g'.nodes = g.nodes.push node) (hlinks : g'.links = g.links)
    (a b : String) : g'.hasEdge a b = true ↔ g.hasEdge a b = true := by
  -- only the new node has a new number, and no edge has that
  have hfind : ∀ id i, i < g.nodes.size → (g'.find? id = some i ↔ g.find? id = some i) := by
    intro id i hi
    rw [h'.find?_iff, h.find?_iff, hnodes, Array.getElem?_push, if_neg (Nat.ne_of_lt hi)]
  rw [hasEdge_iff, hasEdge_iff, hlinks]
  refine exists₂_congr fun i j => ?_
  constructor
  · rintro ⟨hi, hj, hmem⟩
    have hb := h.bounds _ hmem
    exact ⟨(hfind a i hb.1).1 hi, (hfind b j hb.2).1 hj, hmem⟩
  · rintro ⟨hi, hj, hmem⟩
    have hb := h.bounds _ hmem
    exact ⟨(hfind a i hb.1).2 hi, (hfind b j hb.2).2 hj, hmem⟩

theorem addNode_spec (h : Coherent g) {node : Node} (hfresh : g.contains node.id = false) :
    ∃ g', g.addNode node = .ok (g', g.nodes.size) ∧ Coherent g' ∧
      g'.nodes = g.nodes.push node ∧
      ∀ a b, g'.hasEdge a b = true ↔ g.hasEdge a b = true := by
  have h' := h.pushNode hfresh
  exact ⟨_, addNode_of_fresh hfresh, h', rfl, fun a b => h.hasEdge_push h' rfl rfl a b⟩

/-! ## Adding an edge -/

theorem addEdge_of_find? {s t : String} {i j : Nat} (hs : g.find? s = some i)
    (ht : g.find? t = some j) : g.addEdge s t = .ok
      (if i = j then (g, .selfLoop)
      else if (i, j) ∈ g.links then (g, .duplicate)
      else ({ g with links := g.links ++ [(i, j)] }, .added)) := by
  unfold addEdge findOrFault
  rw [hs, ht]
  by_cases hij : i = j
  · simp [hij, bind, Except.bind, pure, Except.pure]
  · by_cases hmem : (i, j) ∈ g.links
    · simp [hij, hmem, bind, Except.bind, pure, Except.pure]
    · simp [hij, hmem, bind, Except.bind, pure, Except.pure]

theorem Coherent.addLink (h : Coherent g) {i j : Nat} (hi : i < g.nodes.size)
    (hj : j < g.nodes.size) (hij : i ≠ j) (hnew : (i, j) ∉ g.links) :
    Coherent { g with links := g.links ++ [(i, j)] } where
  find?_iff := h.find?_iff
  bounds l hl := by
    rcases List.mem_append.1 hl with hl | hl
    · exact h.bounds l hl
    · obtain rfl := List.mem_singleton.1 hl
      exact ⟨hi, hj⟩
  ne l hl := by
    rcases List.mem_append.1 hl with hl | hl
    · exact h.ne l hl
    · obtain rfl := List.mem_singleton.1 hl
      exact hij
  nodup := by
    refine List.nodup_append.2 ⟨h.nodup, List.nodup_singleton _, fun l hl k hk => ?_⟩
    obtain rfl := List.mem_singleton.1 hk
    rintro rfl
    exact hnew hl

theorem Coherent.hasEdge_addLink (h : Coherent g) {s t : String} {i j : Nat}
    (hs : g.find? s = some i) (ht : g.find? t = some j) (a b : String) :
    hasEdge { g with links := g.links ++ [(i, j)] } a b = true ↔
      g.hasEdge a b = true ∨ (a = s ∧ b = t) := by
  rw [hasEdge_iff, hasEdge_iff]
  constructor
  · rintro ⟨i', j', hi', hj', hmem⟩
    rcases List.mem_append.1 hmem with hmem | hmem
    · exact .inl ⟨i', j', hi', hj', hmem⟩
    · obtain ⟨rfl, rfl⟩ := Prod.mk.inj (List.mem_singleton.1 hmem)
      exact .inr ⟨(h.idAt_of_find? hi').symm.trans (h.idAt_of_find? hs),
        (h.idAt_of_find? hj').symm.trans (h.idAt_of_find? ht)⟩
  · rintro (⟨i', j', hi', hj', hmem⟩ | ⟨rfl, rfl⟩)
    · exact ⟨i', j', hi', hj', List.mem_append_left _ hmem⟩
    · exact ⟨i, j, hs, ht, List.mem_append_right _ (List.mem_singleton.2 rfl)⟩

/-- An edge between two nodes is there afterwards, unless it would join a node to itself. -/
theorem addEdge_spec (h : Coherent g) {s t : String} (hs : g.contains s = true)
    (ht : g.contains t = true) :
    ∃ g' outcome, g.addEdge s t = .ok (g', outcome) ∧ Coherent g' ∧ g'.nodes = g.nodes ∧
      ∀ a b, g'.hasEdge a b = true ↔ g.hasEdge a b = true ∨ (a = s ∧ b = t ∧ s ≠ t) := by
  obtain ⟨i, hi⟩ := contains_iff.1 hs
  obtain ⟨j, hj⟩ := contains_iff.1 ht
  have hadd := addEdge_of_find? hi hj
  by_cases hij : i = j
  · rw [if_pos hij] at hadd
    refine ⟨g, _, hadd, h, rfl, fun a b => ⟨.inl, ?_⟩⟩
    rintro (hedge | ⟨-, -, hne⟩)
    · exact hedge
    · rw [← h.idAt_of_find? hi, ← h.idAt_of_find? hj, hij] at hne
      exact absurd rfl hne
  · have hne : s ≠ t := by
      rintro rfl
      exact hij (Option.some.inj (hi.symm.trans hj))
    rw [if_neg hij] at hadd
    by_cases hmem : (i, j) ∈ g.links
    · rw [if_pos hmem] at hadd
      refine ⟨g, _, hadd, h, rfl, fun a b => ⟨.inl, ?_⟩⟩
      rintro (hedge | ⟨rfl, rfl, -⟩)
      · exact hedge
      · exact hasEdge_iff.2 ⟨i, j, hi, hj, hmem⟩
    · rw [if_neg hmem] at hadd
      refine ⟨_, _, hadd, h.addLink (h.lt_of_find? hi) (h.lt_of_find? hj) hij hmem, rfl,
        fun a b => ?_⟩
      rw [h.hasEdge_addLink hi hj]
      simp [hne]

/-! ## Reading the edges -/

theorem Coherent.mem_edges_iff (h : Coherent g) {s t : String} :
    ⟨s, t⟩ ∈ g.edges ↔ g.hasEdge s t = true := by
  rw [edges, List.mem_mergeSort, List.mem_map, hasEdge_iff]
  constructor
  · rintro ⟨⟨i, j⟩, hmem, heq⟩
    obtain ⟨rfl, rfl⟩ := Edge.mk.inj heq
    have hb := h.bounds _ hmem
    exact ⟨i, j, h.find?_idAt hb.1, h.find?_idAt hb.2, hmem⟩
  · rintro ⟨i, j, hi, hj, hmem⟩
    exact ⟨(i, j), hmem, by rw [h.idAt_of_find? hi, h.idAt_of_find? hj]⟩

theorem Coherent.pairwise_edges (h : Coherent g) : g.edges.Pairwise Edge.Lt := by
  have hnodup : (g.links.map fun l => Edge.mk (g.idAt l.1) (g.idAt l.2)).Nodup := by
    refine List.Nodup.map_on (fun l hl k hk heq => ?_) h.nodup
    have hl' := h.bounds l hl
    have hk' := h.bounds k hk
    obtain ⟨hs, ht⟩ := Edge.mk.inj heq
    exact Prod.ext (h.idAt_inj hl'.1 hk'.1 hs) (h.idAt_inj hl'.2 hk'.2 ht)
  have hsorted := List.pairwise_mergeSort Edge.trans Edge.total
    (g.links.map fun l => Edge.mk (g.idAt l.1) (g.idAt l.2))
  exact hsorted.imp₂ (fun _ _ => Edge.lt_of_le) ((List.mergeSort_perm _ _).nodup_iff.2 hnodup)

theorem Coherent.mem_dependencies_iff (h : Coherent g) {s t : String} :
    t ∈ g.dependencies s ↔ g.hasEdge s t = true := by
  rw [hasEdge_iff, dependencies]
  cases hs : g.find? s with
  | none => simp
  | some i =>
    simp only [mem_sortIds, List.mem_map, List.mem_filter, beq_iff_eq]
    constructor
    · rintro ⟨⟨i', j⟩, ⟨hmem, rfl⟩, rfl⟩
      exact ⟨i', j, rfl, h.find?_idAt (h.bounds _ hmem).2, hmem⟩
    · rintro ⟨i', j, hi', hj, hmem⟩
      obtain rfl := Option.some.inj hi'
      exact ⟨(i, j), ⟨hmem, rfl⟩, h.idAt_of_find? hj⟩

theorem Coherent.mem_dependents_iff (h : Coherent g) {s t : String} :
    s ∈ g.dependents t ↔ g.hasEdge s t = true := by
  rw [hasEdge_iff, dependents]
  cases ht : g.find? t with
  | none => simp
  | some j =>
    simp only [mem_sortIds, List.mem_map, List.mem_filter, beq_iff_eq]
    constructor
    · rintro ⟨⟨i, j'⟩, ⟨hmem, rfl⟩, rfl⟩
      exact ⟨i, j', h.find?_idAt (h.bounds _ hmem).1, rfl, hmem⟩
    · rintro ⟨i, j', hi, hj', hmem⟩
      obtain rfl := Option.some.inj hj'
      exact ⟨(i, j), ⟨hmem, rfl⟩, h.idAt_of_find? hi⟩

theorem Coherent.pairwise_dependencies (h : Coherent g) (id : String) :
    (g.dependencies id).Pairwise (· < ·) := by
  rw [dependencies]
  split
  · refine pairwise_sortIds (List.Nodup.map_on (fun l hl k hk heq => ?_) (h.nodup.filter _))
    simp only [List.mem_filter, beq_iff_eq] at hl hk
    exact Prod.ext (hl.2.trans hk.2.symm)
      (h.idAt_inj (h.bounds l hl.1).2 (h.bounds k hk.1).2 heq)
  · exact List.Pairwise.nil

theorem Coherent.pairwise_dependents (h : Coherent g) (id : String) :
    (g.dependents id).Pairwise (· < ·) := by
  rw [dependents]
  split
  · refine pairwise_sortIds (List.Nodup.map_on (fun l hl k hk heq => ?_) (h.nodup.filter _))
    simp only [List.mem_filter, beq_iff_eq] at hl hk
    exact Prod.ext (h.idAt_inj (h.bounds l hl.1).1 (h.bounds k hk.1).1 heq)
      (hl.2.trans hk.2.symm)
  · exact List.Pairwise.nil

/-! ## Graphs with the same edges -/

variable {g' : ReferenceGraph}

theorem Coherent.edges_eq (h : Coherent g) (h' : Coherent g')
    (hsame : ∀ s t, g.hasEdge s t = true ↔ g'.hasEdge s t = true) : g.edges = g'.edges :=
  eq_of_mem_iff_of_pairwise Edge.asymm h.pairwise_edges h'.pairwise_edges fun e => by
    rw [h.mem_edges_iff (s := e.source) (t := e.target), hsame, h'.mem_edges_iff]

theorem Coherent.dependencies_eq (h : Coherent g) (h' : Coherent g')
    (hsame : ∀ s t, g.hasEdge s t = true ↔ g'.hasEdge s t = true) (id : String) :
    g.dependencies id = g'.dependencies id :=
  eq_of_mem_iff_of_pairwise (fun _ _ => lt_asymm) (h.pairwise_dependencies id)
    (h'.pairwise_dependencies id) fun t => by
      rw [h.mem_dependencies_iff, hsame, h'.mem_dependencies_iff]

theorem Coherent.dependents_eq (h : Coherent g) (h' : Coherent g')
    (hsame : ∀ s t, g.hasEdge s t = true ↔ g'.hasEdge s t = true) (id : String) :
    g.dependents id = g'.dependents id :=
  eq_of_mem_iff_of_pairwise (fun _ _ => lt_asymm) (h.pairwise_dependents id)
    (h'.pairwise_dependents id) fun s => by
      rw [h.mem_dependents_iff, hsame, h'.mem_dependents_iff]

end Coherent

end ReferenceGraph

end RefAtlas.Graph
