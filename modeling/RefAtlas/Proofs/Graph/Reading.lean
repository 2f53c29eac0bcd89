import Mathlib.Algebra.BigOperators.Group.List.Basic
import Mathlib.Algebra.GroupWithZero.Nat
import Mathlib.Data.List.TFAE
import Mathlib.Tactic.TFAE
import RefAtlas.Proofs.Graph.History
import RefAtlas.Proofs.Text.ByteOrder

/-! # One relation, read in many ways

However the edges of a graph are read, they are those that were added, and they come in the order of
the bytes of the ids.

* `targetsOf`, `get?_foldl_file`: filing edges under their sources.
* `Coherent.get?_adjacency`, `Coherent.sum_length_adjacency`: the targets of every node.
* `Coherent.countP_adjacency`: how many nodes have a target.
* `readings_agree`: all readings, after any calls.
-/

namespace RefAtlas.Graph
set_option autoImplicit false

/-! ## Filing edges under their sources -/

def targetsOf (edges : List Edge) (source : String) : List String :=
  (edges.filter fun e => e.source == source).map Edge.target

def file (d : Dictionary (List String)) (e : Edge) : Dictionary (List String) :=
  d.insert e.source ((d.get? e.source).getD [] ++ [e.target])

theorem targetsOf_cons (e : Edge) (edges : List Edge) (s : String) :
    targetsOf (e :: edges) s =
      if e.source = s then e.target :: targetsOf edges s else targetsOf edges s := by
  unfold targetsOf
  by_cases h : e.source = s
  · rw [if_pos h, List.filter_cons_of_pos (by simpa using h), List.map_cons]
  · rw [if_neg h, List.filter_cons_of_neg (by simpa using h)]

theorem mem_targetsOf {edges : List Edge} {s t : String} :
    t ∈ targetsOf edges s ↔ ⟨s, t⟩ ∈ edges := by
  simp only [targetsOf, List.mem_map, List.mem_filter, beq_iff_eq]
  constructor
  · rintro ⟨⟨_, _⟩, ⟨hmem, rfl⟩, rfl⟩
    exact hmem
  · intro hmem
    exact ⟨_, ⟨hmem, rfl⟩, rfl⟩

/-- A dictionary with a list for every source. -/
def Covers (d : Dictionary (List String)) (edges : List Edge) : Prop :=
  ∀ e ∈ edges, ∃ targets, d.get? e.source = some targets

theorem Covers.file {d : Dictionary (List String)} {e : Edge} {edges : List Edge}
    (h : Covers d (e :: edges)) : Covers (file d e) edges := by
  intro f hf
  rw [Graph.file, Dictionary.get?_insert]
  split
  · exact ⟨_, rfl⟩
  · exact h f (List.mem_cons_of_mem e hf)

theorem get?_foldl_file {edges : List Edge} {d : Dictionary (List String)} (h : Covers d edges)
    (s : String) : (edges.foldl file d).get? s = (d.get? s).map (· ++ targetsOf edges s) := by
  induction edges generalizing d with
  | nil =>
    rw [List.foldl_nil, targetsOf, List.filter_nil, List.map_nil]
    simp
  | cons e edges ih =>
    obtain ⟨targets, htargets⟩ := h e List.mem_cons_self
    rw [List.foldl_cons, ih h.file, file, Dictionary.get?_insert, targetsOf_cons, htargets]
    by_cases hs : s = e.source
    · rw [if_pos hs, if_pos hs.symm, hs, htargets]
      simp
    · rw [if_neg hs, if_neg (Ne.symm hs)]

def listed (d : Dictionary (List String)) : Nat := (d.values.map List.length).sum

theorem listed_file {d : Dictionary (List String)} {e : Edge} {targets : List String}
    (h : d.get? e.source = some targets) : listed (file d e) = listed d + 1 := by
  obtain ⟨before, after, hold, hnew⟩ := Dictionary.values_insert (targets ++ [e.target]) h
  rw [listed, listed, file, h, Option.getD_some, hold, hnew]
  simp only [List.map_append, List.map_cons, List.sum_append, List.sum_cons, List.length_append,
    List.length_singleton]
  omega

theorem listed_foldl_file {edges : List Edge} {d : Dictionary (List String)} (h : Covers d edges) :
    listed (edges.foldl file d) = listed d + edges.length := by
  induction edges generalizing d with
  | nil => rfl
  | cons e edges ih =>
    obtain ⟨targets, htargets⟩ := h e List.mem_cons_self
    rw [List.foldl_cons, ih h.file, listed_file htargets, List.length_cons]
    omega

namespace ReferenceGraph

/-! ## The targets of every node -/

section Coherent
variable {g : ReferenceGraph}

theorem adjacency_eq (g : ReferenceGraph) :
    g.adjacency = g.edges.foldl file (Dictionary.ofList (g.nodeIds.map fun id => (id, []))) := rfl

theorem get?_unlisted (ids : List String) (id : String) :
    (Dictionary.ofList (ids.map fun id => (id, ([] : List String)))).get? id =
      if id ∈ ids then some [] else none := by
  have h := Dictionary.get?_ofList_filterMap (fun _ => some ([] : List String)) ids id
  simpa only [Option.map_some, List.filterMap_eq_map'] using h

theorem Coherent.mem_nodeIds_of_hasEdge (h : Coherent g) {s t : String}
    (hedge : g.hasEdge s t = true) : s ∈ g.nodeIds ∧ t ∈ g.nodeIds := by
  obtain ⟨i, j, hi, hj, -⟩ := hasEdge_iff.1 hedge
  exact ⟨h.contains_iff_mem.1 (contains_iff.2 ⟨i, hi⟩),
    h.contains_iff_mem.1 (contains_iff.2 ⟨j, hj⟩)⟩

theorem Coherent.covers (h : Coherent g) :
    Covers (Dictionary.ofList (g.nodeIds.map fun id => (id, []))) g.edges := by
  intro e he
  have hs := (h.mem_nodeIds_of_hasEdge (h.mem_edges_iff.1 he)).1
  exact ⟨[], by rw [get?_unlisted, if_pos hs]⟩

theorem Coherent.targetsOf_edges (h : Coherent g) (s : String) :
    targetsOf g.edges s = g.dependencies s := by
  have hsorted : (targetsOf g.edges s).Pairwise (· < ·) := by
    refine List.pairwise_map.2 ((h.pairwise_edges.filter _).imp_of_mem fun {e f} he hf hlt => ?_)
    have hes : e.source = s := by simpa using (List.mem_filter.1 he).2
    have hfs : f.source = s := by simpa using (List.mem_filter.1 hf).2
    rcases hlt with hlt | ⟨-, hlt⟩
    · rw [hes, hfs] at hlt
      exact absurd hlt (lt_irrefl s)
    · exact hlt
  refine eq_of_mem_iff_of_pairwise (fun _ _ => lt_asymm) hsorted (h.pairwise_dependencies s) ?_
  intro t
  rw [mem_targetsOf, h.mem_edges_iff, h.mem_dependencies_iff]

theorem Coherent.get?_adjacency (h : Coherent g) (s : String) :
    g.adjacency.get? s = if s ∈ g.nodeIds then some (g.dependencies s) else none := by
  rw [adjacency_eq, get?_foldl_file h.covers, get?_unlisted, h.targetsOf_edges]
  split <;> rfl

theorem Coherent.eq_dependencies_of_get?_adjacency (h : Coherent g) {s : String}
    {targets : List String} (hget : g.adjacency.get? s = some targets) :
    targets = g.dependencies s := by
  rw [h.get?_adjacency] at hget
  split at hget
  · exact (Option.some.inj hget).symm
  · cases hget

theorem Coherent.mem_adjacency_iff (h : Coherent g) {s t : String} :
    (∃ targets, g.adjacency.get? s = some targets ∧ t ∈ targets) ↔ g.hasEdge s t = true := by
  rw [← h.mem_dependencies_iff]
  constructor
  · rintro ⟨targets, hget, ht⟩
    rwa [h.eq_dependencies_of_get?_adjacency hget] at ht
  · intro ht
    have hs := (h.mem_nodeIds_of_hasEdge (h.mem_dependencies_iff.1 ht)).1
    exact ⟨_, by rw [h.get?_adjacency, if_pos hs], ht⟩

theorem Coherent.mem_keys_adjacency (h : Coherent g) (id : String) :
    id ∈ g.adjacency.keys ↔ id ∈ g.nodeIds := by
  have hkeys : id ∈ g.adjacency.keys ↔ ∃ targets, g.adjacency.get? id = some targets := by
    simp [Dictionary.keys, ← Dictionary.mem_entries_iff]
  rw [hkeys, h.get?_adjacency]
  by_cases hid : id ∈ g.nodeIds
  · simp [hid]
  · simp [hid]

theorem Coherent.sum_length_adjacency (h : Coherent g) : listed g.adjacency = g.edges.length := by
  have hunlisted : listed (Dictionary.ofList (g.nodeIds.map fun id => (id, []))) = 0 := by
    refine List.sum_eq_zero fun n hn => ?_
    obtain ⟨targets, htargets, rfl⟩ := List.mem_map.1 hn
    obtain ⟨key, hkey⟩ := Dictionary.mem_values_iff.1 htargets
    rw [get?_unlisted] at hkey
    split at hkey
    · cases hkey
      rfl
    · cases hkey
  rw [adjacency_eq, listed_foldl_file h.covers, hunlisted, Nat.zero_add]

theorem length_edges (g : ReferenceGraph) : g.edges.length = g.edgeCount := by
  rw [edges, List.length_mergeSort, List.length_map, edgeCount]

end Coherent

/-! ## All readings -/

theorem Records.mem_log_iff {log : List (Call × Reply)} {g : ReferenceGraph} (h : Records log g)
    (s t : String) : (.addEdge s t, .edge .added) ∈ log ↔ g.hasEdge s t = true := by
  rw [← List.count_pos_iff, ← additions, h.counted]
  split <;> simp [*]

theorem Records.count_eq_one_iff {log : List (Call × Reply)} {g : ReferenceGraph}
    (h : Records log g) (s t : String) :
    log.count (.addEdge s t, .edge .added) = 1 ↔ g.hasEdge s t = true := by
  rw [← additions, h.counted]
  split <;> simp [*]

/-- Whatever calls have been made, every reading of the edges tells which edges were added, in the
order of the bytes and without repetition. -/
theorem readings_agree (calls : List Call) :
    let g := empty.run calls
    let log := empty.log calls
    (∀ s t, List.TFAE [g.hasEdge s t = true, ⟨s, t⟩ ∈ g.edges, t ∈ g.dependencies s,
      s ∈ g.dependents t, ∃ targets, g.adjacency.get? s = some targets ∧ t ∈ targets,
      (.addEdge s t, .edge .added) ∈ log, log.count (.addEdge s t, .edge .added) = 1]) ∧
    (g.edges.Pairwise fun e f => Text.utf8 e.source < Text.utf8 f.source ∨
      e.source = f.source ∧ Text.utf8 e.target < Text.utf8 f.target) ∧
    (∀ id, (g.dependencies id).Pairwise fun a b => Text.utf8 a < Text.utf8 b) ∧
    (∀ id, (g.dependents id).Pairwise fun a b => Text.utf8 a < Text.utf8 b) ∧
    (∀ id targets, g.adjacency.get? id = some targets →
      targets.Pairwise fun a b => Text.utf8 a < Text.utf8 b) ∧
    (∀ id, id ∈ g.adjacency.keys ↔ id ∈ g.nodeIds) ∧
    g.edgeCount = g.edges.length ∧ g.edgeCount = (g.adjacency.values.map List.length).sum := by
  intro g log
  have hrecords : Records log g := records_run calls
  have h : Coherent g := hrecords.coherent
  have hbytes : ∀ {ids : List String}, ids.Pairwise (· < ·) →
      ids.Pairwise fun a b => Text.utf8 a < Text.utf8 b := fun hids =>
    hids.imp fun hab => (Text.lt_iff_utf8_lt _ _).1 hab
  refine ⟨fun s t => ?_, ?_, fun id => hbytes (h.pairwise_dependencies id),
    fun id => hbytes (h.pairwise_dependents id), ?_, h.mem_keys_adjacency, (length_edges g).symm, ?_⟩
  · tfae_have 2 ↔ 1 := h.mem_edges_iff
    tfae_have 3 ↔ 1 := h.mem_dependencies_iff
    tfae_have 4 ↔ 1 := h.mem_dependents_iff
    tfae_have 5 ↔ 1 := h.mem_adjacency_iff
    tfae_have 6 ↔ 1 := hrecords.mem_log_iff s t
    tfae_have 7 ↔ 1 := hrecords.count_eq_one_iff s t
    tfae_finish
  · refine h.pairwise_edges.imp fun {e f} hlt => ?_
    rw [← Text.lt_iff_utf8_lt, ← Text.lt_iff_utf8_lt]
    exact hlt
  · intro id targets hget
    rw [h.eq_dependencies_of_get?_adjacency hget]
    exact hbytes (h.pairwise_dependencies id)
  · rw [← length_edges]
    exact h.sum_length_adjacency.symm

theorem readings_agree_repeatedCalls :
    let g := empty.run repeatedCalls
    (.addEdge "Cart" "Item", .edge .added) ∈ empty.log repeatedCalls ∧
    g.hasEdge "Cart" "Item" = true ∧ ⟨"Cart", "Item"⟩ ∈ g.edges ∧ g.dependencies "Cart" ≠ [] ∧
    (empty.log repeatedCalls).count (.addEdge "Cart" "Item", .edge .added) = 1 ∧
    ∃ targets, g.adjacency.get? "Cart" = some targets ∧ "Item" ∈ targets ∧
      targets.Pairwise fun a b => Text.utf8 a < Text.utf8 b := by
  intro g
  have hadded : (.addEdge "Cart" "Item", .edge .added) ∈ empty.log repeatedCalls := by
    rw [log_repeatedCalls]
    decide
  obtain ⟨hsame, -, -, -, hsorted, -⟩ := readings_agree repeatedCalls
  have htfae := hsame "Cart" "Item"
  obtain ⟨targets, htargets, hitem⟩ := (htfae.out 5 4).1 hadded
  exact ⟨hadded, (htfae.out 5 0).1 hadded, (htfae.out 5 1).1 hadded,
    List.ne_nil_of_mem ((htfae.out 5 2).1 hadded), (htfae.out 5 6).1 hadded,
    targets, htargets, hitem, hsorted "Cart" targets htargets⟩

end ReferenceGraph

end RefAtlas.Graph
