import RefAtlas.Proofs.Graph.Coherence

/-! # Histories of a graph

A graph is made by calls, of which some are refused. What it holds can be read off the calls and the
answers to them.

* `ReferenceGraph.make`, `ReferenceGraph.run`, `ReferenceGraph.log`: one call, and lists of them.
* `Effect`, `effect_make`: what a call may do.
* `ChangedAt`, `modifyNode_eq_ok`: a change of one node.
* `Records`, `records_run`: what a log says about the graph at its end.
* `run_fits_together`: the parts of a graph fit together after any calls.
-/

namespace RefAtlas.Graph
set_option autoImplicit false

/-! ## Calls and answers -/

inductive Call where
  | addNode (node : Node)
  | addEdge (source target : String)
  | setGroup (id group : String)
  | setProperties (id : String) (properties : List Property) (max : Nat)
deriving DecidableEq

inductive Reply where
  | number (i : Nat)
  | edge (outcome : EdgeOutcome)
  | done
  | fault (fault : GraphFault)
deriving DecidableEq

def Reply.isRefusal : Reply → Bool
  | fault _ | edge .duplicate | edge .selfLoop => true
  | number _ | edge .added | done => false

/-- The nodes that were added, by their ids, and the numbers they were given. -/
def insertions (log : List (Call × Reply)) : List (String × Nat) :=
  log.filterMap fun
    | (.addNode node, .number i) => some (node.id, i)
    | _ => none

def additions (log : List (Call × Reply)) (source target : String) : Nat :=
  log.count (.addEdge source target, .edge .added)

theorem insertions_append (log more : List (Call × Reply)) :
    insertions (log ++ more) = insertions log ++ insertions more := List.filterMap_append

theorem additions_append (log more : List (Call × Reply)) (s t : String) :
    additions (log ++ more) s t = additions log s t + additions more s t := List.count_append

theorem insertions_refusal {call : Call} {reply : Reply} (h : reply.isRefusal = true) :
    insertions [(call, reply)] = [] := by
  cases reply with
  | number i => cases h
  | edge outcome | done | fault f => cases call <;> rfl

theorem additions_eq_zero {call : Call} {reply : Reply} (h : reply ≠ .edge .added) (s t : String) :
    additions [(call, reply)] s t = 0 := by
  refine List.count_eq_zero.2 fun hmem => h ?_
  exact (Prod.mk.inj (List.mem_singleton.1 hmem)).2.symm

namespace ReferenceGraph

/-- The graph after a call and the answer to it. A fault leaves the graph as it was. -/
def settle (g : ReferenceGraph) :
    Except GraphFault (ReferenceGraph × Reply) → ReferenceGraph × Reply
  | .ok result => result
  | .error fault => (g, .fault fault)

def make (g : ReferenceGraph) : Call → ReferenceGraph × Reply
  | .addNode node => g.settle ((g.addNode node).map fun r => (r.1, .number r.2))
  | .addEdge source target => g.settle ((g.addEdge source target).map fun r => (r.1, .edge r.2))
  | .setGroup id group => g.settle ((g.setGroup id group).map fun g' => (g', .done))
  | .setProperties id properties max =>
    g.settle ((g.setProperties id properties max).map fun g' => (g', .done))

def run (g : ReferenceGraph) (calls : List Call) : ReferenceGraph :=
  calls.foldl (fun g call => (g.make call).1) g

def log (g : ReferenceGraph) : List Call → List (Call × Reply)
  | [] => []
  | call :: rest => (call, (g.make call).2) :: (g.make call).1.log rest

theorem run_append (g : ReferenceGraph) (calls more : List Call) :
    g.run (calls ++ more) = (g.run calls).run more := List.foldl_append

theorem log_append (g : ReferenceGraph) (calls more : List Call) :
    g.log (calls ++ more) = g.log calls ++ (g.run calls).log more := by
  induction calls generalizing g with
  | nil => rfl
  | cons call rest ih =>
    rw [List.cons_append, log, log, List.cons_append, ih]
    rfl

/-! ## What a call does -/

/-- A call is refused, or it adds a node or an edge, or it changes the node with an id. -/
inductive Effect (g : ReferenceGraph) : Call → ReferenceGraph → Reply → Prop
  | refused {call : Call} {reply : Reply} (h : reply.isRefusal = true) : Effect g call g reply
  | pushed {node : Node} (fresh : g.contains node.id = false) :
    Effect g (.addNode node)
      { g with nodes := g.nodes.push node, index := g.index.insert node.id g.nodes.size }
      (.number g.nodes.size)
  | linked {s t : String} {i j : Nat} (hs : g.find? s = some i) (ht : g.find? t = some j)
    (hne : i ≠ j) (hnew : (i, j) ∉ g.links) :
    Effect g (.addEdge s t) { g with links := g.links ++ [(i, j)] } (.edge .added)
  | grouped {id : String} {i : Nat} (group : String) (hi : g.find? id = some i) :
    Effect g (.setGroup id group)
      { g with nodes := g.nodes.modify i fun n => { n with group := some group } } .done
  | described {id : String} {i : Nat} (properties : List Property) (max : Nat)
    (hi : g.find? id = some i) :
    Effect g (.setProperties id properties max)
      { g with nodes := g.nodes.modify i fun n => { n with properties := properties.take max } }
      .done

section Effect
variable {g : ReferenceGraph}

theorem modifyNode_of_find? {id : String} {i : Nat} (hi : g.find? id = some i)
    (change : Node → Node) :
    g.modifyNode id change = .ok { g with nodes := g.nodes.modify i change } := by
  rw [modifyNode, findOrFault, hi]
  rfl

theorem modifyNode_of_none {id : String} (h : g.find? id = none) (change : Node → Node) :
    g.modifyNode id change = .error (.nodeNotFound id) := by
  rw [modifyNode, findOrFault, h]
  rfl

theorem exists_fault_addEdge {s t : String} (h : g.find? s = none ∨ g.find? t = none) :
    ∃ fault, g.addEdge s t = .error fault := by
  unfold addEdge findOrFault
  cases hs : g.find? s with
  | none => exact ⟨_, rfl⟩
  | some i =>
    rw [hs] at h
    obtain ht := h.resolve_left (Option.some_ne_none i)
    rw [ht]
    exact ⟨_, rfl⟩

theorem effect_addNode (g : ReferenceGraph) (node : Node) :
    Effect g (.addNode node) (g.make (.addNode node)).1 (g.make (.addNode node)).2 := by
  cases hfresh : g.contains node.id with
  | false =>
    simp only [make, addNode_of_fresh hfresh]
    exact .pushed hfresh
  | true =>
    simp only [make, addNode, hfresh]
    exact .refused rfl

theorem effect_addEdge (g : ReferenceGraph) (s t : String) :
    Effect g (.addEdge s t) (g.make (.addEdge s t)).1 (g.make (.addEdge s t)).2 := by
  rw [make]
  cases hs : g.find? s with
  | none =>
    obtain ⟨fault, hfault⟩ := exists_fault_addEdge (.inl hs)
    rw [hfault]
    exact .refused rfl
  | some i =>
    cases ht : g.find? t with
    | none =>
      obtain ⟨fault, hfault⟩ := exists_fault_addEdge (.inr ht)
      rw [hfault]
      exact .refused rfl
    | some j =>
      rw [addEdge_of_find? hs ht]
      split
      · exact .refused rfl
      · next hne =>
        split
        · exact .refused rfl
        · next hnew => exact .linked hs ht hne hnew

theorem effect_make (g : ReferenceGraph) (call : Call) :
    Effect g call (g.make call).1 (g.make call).2 := by
  cases call with
  | addNode node => exact effect_addNode g node
  | addEdge s t => exact effect_addEdge g s t
  | setGroup id group =>
    rw [make, setGroup]
    cases hi : g.find? id with
    | none =>
      rw [modifyNode_of_none hi]
      exact .refused rfl
    | some i =>
      rw [modifyNode_of_find? hi]
      exact .grouped group hi
  | setProperties id properties max =>
    rw [make, setProperties]
    cases hi : g.find? id with
    | none =>
      rw [modifyNode_of_none hi]
      exact .refused rfl
    | some i =>
      rw [modifyNode_of_find? hi]
      exact .described properties max hi

theorem make_of_isRefusal {call : Call} (h : (g.make call).2.isRefusal = true) :
    (g.make call).1 = g := by
  have heffect := effect_make g call
  generalize g.make call = result at *
  obtain ⟨g', reply⟩ := result
  cases heffect with
  | refused => rfl
  | pushed | linked | grouped | described => cases h

/-! ## Changing a node -/

/-- The second graph is the first one with the node of an id changed. -/
def ChangedAt (id : String) (change : Node → Node) (g g' : ReferenceGraph) : Prop :=
  g'.index = g.index ∧ g'.links = g.links ∧
    g'.nodes.toList = g.nodes.toList.map fun n => if n.id = id then change n else n

theorem Coherent.changedAt (h : Coherent g) {id : String} {i : Nat} (hi : g.find? id = some i)
    (change : Node → Node) : ChangedAt id change g { g with nodes := g.nodes.modify i change } := by
  refine ⟨rfl, rfl, List.ext_getElem? fun j => ?_⟩
  rw [List.getElem?_map, Array.getElem?_toList, Array.getElem?_toList, Array.getElem?_modify]
  cases hj : g.nodes[j]? with
  | none => simp
  | some node =>
    have hnode : node.id = id ↔ i = j := by
      have hfind := h.find?_iff id j
      rw [hi, hj, Option.map_some, Option.some_inj, Option.some_inj] at hfind
      exact hfind.symm
    simp only [Option.map_some, hnode]
    split <;> rfl

theorem ChangedAt.of_mem {id : String} {change : Node → Node} {g' : ReferenceGraph}
    (h : ChangedAt id change g g') {node : Node} (hnode : node ∈ g'.nodes)
    (hnodeId : node.id = id) : ∃ old ∈ g.nodes, node = change old := by
  rw [← Array.mem_toList_iff, h.2.2, List.mem_map] at hnode
  obtain ⟨old, hold, rfl⟩ := hnode
  refine ⟨old, Array.mem_toList_iff.1 hold, if_pos ?_⟩
  split at hnodeId
  · assumption
  · exact hnodeId

section Ids
variable {change : Node → Node} (hid : ∀ n, (change n).id = n.id)
include hid

theorem map_id_modify (nodes : Array Node) (i j : Nat) :
    (nodes.modify i change)[j]?.map Node.id = nodes[j]?.map Node.id := by
  rw [Array.getElem?_modify]
  split
  · rw [Option.map_map]
    exact congrArg (Option.map · _) (funext hid)
  · rfl

theorem nodeIds_modify (i : Nat) :
    nodeIds { g with nodes := g.nodes.modify i change } = g.nodeIds := by
  refine List.ext_getElem? fun j => ?_
  rw [nodeIds, nodeIds, List.getElem?_map, List.getElem?_map, Array.getElem?_toList,
    Array.getElem?_toList]
  exact map_id_modify hid _ i j

theorem Coherent.modify (h : Coherent g) (i : Nat) :
    Coherent { g with nodes := g.nodes.modify i change } where
  find?_iff id j := by
    rw [map_id_modify hid]
    exact h.find?_iff id j
  bounds := by
    rw [Array.size_modify]
    exact h.bounds
  ne := h.ne
  nodup := h.nodup

end Ids

section Changed
variable {g' g'' : ReferenceGraph} {id : String} {change change' : Node → Node}

theorem modifyNode_eq_ok (h : Coherent g) (hid : id ∈ g.nodeIds)
    (hchange : ∀ n, (change n).id = n.id) :
    ∃ g', g.modifyNode id change = .ok g' ∧ Coherent g' ∧ ChangedAt id change g g' := by
  obtain ⟨i, hi⟩ := contains_iff.1 (h.contains_iff_mem.2 hid)
  exact ⟨_, modifyNode_of_find? hi change, h.modify hchange i, h.changedAt hi change⟩

theorem ChangedAt.congr (h : ChangedAt id change g g')
    (hsame : ∀ n, n.id = id → change n = change' n) : ChangedAt id change' g g' := by
  obtain ⟨hindex, hlinks, hnodes⟩ := h
  refine ⟨hindex, hlinks, hnodes.trans (List.map_congr_left fun n _ => ?_)⟩
  split
  · next hn => exact hsame n hn
  · rfl

theorem ChangedAt.trans (h : ChangedAt id change g g') (h' : ChangedAt id change' g' g'')
    (hchange : ∀ n, (change n).id = n.id) :
    ChangedAt id (fun n => change' (change n)) g g'' := by
  obtain ⟨hindex, hlinks, hnodes⟩ := h
  obtain ⟨hindex', hlinks', hnodes'⟩ := h'
  refine ⟨hindex'.trans hindex, hlinks'.trans hlinks, ?_⟩
  rw [hnodes', hnodes, List.map_map]
  refine List.map_congr_left fun n _ => ?_
  by_cases hn : n.id = id
  · simp [hn, hchange]
  · simp [hn]

theorem ChangedAt.nodeIds_eq (h : ChangedAt id change g g') (hchange : ∀ n, (change n).id = n.id) :
    g'.nodeIds = g.nodeIds := by
  rw [nodeIds, nodeIds, h.2.2, List.map_map]
  refine List.map_congr_left fun n _ => ?_
  rw [Function.comp_apply]
  split
  · exact hchange n
  · rfl

end Changed

end Effect

/-! ## What a log says -/

/-- The log of the calls that made a graph: its nodes are those that were added, under the numbers
they were given, and its edges were added once each. -/
structure Records (log : List (Call × Reply)) (g : ReferenceGraph) : Prop where
  coherent : Coherent g
  numbered : insertions log = g.nodeIds.zipIdx
  counted : ∀ s t, additions log s t = if g.hasEdge s t then 1 else 0

theorem records_empty : Records [] empty where
  coherent := coherent_empty
  numbered := rfl
  counted s t := by
    have h : empty.hasEdge s t = false := by simp [hasEdge, find?, empty]
    rw [h]
    rfl

section Records
variable {log : List (Call × Reply)} {g : ReferenceGraph}

theorem Records.refuse (h : Records log g) {call : Call} {reply : Reply}
    (hreply : reply.isRefusal = true) : Records (log ++ [(call, reply)]) g where
  coherent := h.coherent
  numbered := by
    rw [insertions_append, insertions_refusal hreply, List.append_nil]
    exact h.numbered
  counted s t := by
    have hne : reply ≠ .edge .added := by
      rintro rfl
      cases hreply
    rw [additions_append, additions_eq_zero hne, h.counted]
    rfl

theorem Records.push (h : Records log g) {node : Node} (hfresh : g.contains node.id = false) :
    Records (log ++ [(.addNode node, .number g.nodes.size)])
      { g with nodes := g.nodes.push node, index := g.index.insert node.id g.nodes.size } where
  coherent := h.coherent.pushNode hfresh
  numbered := by
    have hlength : g.nodeIds.length = g.nodes.size := by simp [nodeIds]
    have hids : nodeIds { g with
        nodes := g.nodes.push node, index := g.index.insert node.id g.nodes.size } =
        g.nodeIds ++ [node.id] := by
      simp [nodeIds]
    rw [insertions_append, h.numbered, hids, List.zipIdx_append, hlength, Nat.zero_add]
    rfl
  counted s t := by
    have hsame := h.coherent.hasEdge_push (h.coherent.pushNode hfresh) rfl rfl s t
    rw [additions_append, additions_eq_zero (by simp), h.counted, Nat.add_zero]
    simp only [hsame]

theorem Records.link (h : Records log g) {s t : String} {i j : Nat} (hs : g.find? s = some i)
    (ht : g.find? t = some j) (hne : i ≠ j) (hnew : (i, j) ∉ g.links) :
    Records (log ++ [(.addEdge s t, .edge .added)]) { g with links := g.links ++ [(i, j)] } where
  coherent := h.coherent.addLink (h.coherent.lt_of_find? hs) (h.coherent.lt_of_find? ht) hne hnew
  numbered := by
    rw [insertions_append, h.numbered]
    exact List.append_nil _
  counted a b := by
    rw [additions_append, h.counted]
    simp only [h.coherent.hasEdge_addLink hs ht]
    by_cases hab : a = s ∧ b = t
    · obtain ⟨rfl, rfl⟩ := hab
      have hold : ¬ g.hasEdge a b = true := by
        rw [hasEdge_iff_mem_links hs ht]
        exact hnew
      rw [if_neg hold, if_pos (.inr ⟨rfl, rfl⟩), additions, List.count_singleton_self]
    · have hzero : additions [(.addEdge s t, .edge .added)] a b = 0 := by
        refine List.count_eq_zero.2 fun hmem => hab ?_
        simpa using hmem
      rw [hzero]
      simp only [hab, or_false, Nat.add_zero]

theorem Records.modify (h : Records log g) {call : Call} {change : Node → Node}
    (hid : ∀ n, (change n).id = n.id) (i : Nat) :
    Records (log ++ [(call, .done)]) { g with nodes := g.nodes.modify i change } where
  coherent := h.coherent.modify hid i
  numbered := by
    have hnone : insertions [(call, .done)] = [] := by cases call <;> rfl
    rw [insertions_append, hnone, List.append_nil, nodeIds_modify hid]
    exact h.numbered
  counted s t := by
    rw [additions_append, additions_eq_zero (by simp), h.counted]
    rfl

theorem Records.make (h : Records log g) (call : Call) :
    Records (log ++ [(call, (g.make call).2)]) (g.make call).1 := by
  have heffect := effect_make g call
  generalize g.make call = result at *
  obtain ⟨g', reply⟩ := result
  cases heffect with
  | refused hreply => exact h.refuse hreply
  | pushed hfresh => exact h.push hfresh
  | linked hs ht hne hnew => exact h.link hs ht hne hnew
  | grouped group hi =>
    refine h.modify ?_ _
    intro n
    rfl
  | described properties max hi =>
    refine h.modify ?_ _
    intro n
    rfl

theorem records_run (calls : List Call) : Records (empty.log calls) (empty.run calls) := by
  induction calls using List.reverseRecOn with
  | nil => exact records_empty
  | append_singleton calls call ih =>
    rw [log_append, run_append]
    exact ih.make call

end Records

/-! ## The parts of a graph -/

/-- Whatever calls have been made, the index knows every node by its number and nothing else, the
numbers are those of the insertions in their order, and the edges join different nodes, no two of
them twice. A refused call changes nothing; the others that name a node change one field of it. -/
theorem run_fits_together (calls : List Call) :
    let g := empty.run calls
    (∀ (id : String) (i : Nat), g.index[id]? = some i ↔ ∃ node, g.nodes[i]? = some node ∧ node.id = id) ∧
    insertions (empty.log calls) = g.nodeIds.zipIdx ∧
    (∀ l ∈ g.links, l.1 < g.nodes.size ∧ l.2 < g.nodes.size ∧ l.1 ≠ l.2) ∧ g.links.Nodup ∧
    (∀ call, (g.make call).2.isRefusal = true → (g.make call).1 = g) ∧
    (∀ id ∈ g.nodeIds, ∀ group, ∃ g', g.setGroup id group = .ok g' ∧
      ChangedAt id (fun n => { n with group := some group }) g g') ∧
    ∀ id ∈ g.nodeIds, ∀ properties max, ∃ g', g.setProperties id properties max = .ok g' ∧
      ChangedAt id (fun n => { n with properties := properties.take max }) g g' ∧
      ∀ node ∈ g'.nodes, node.id = id → node.properties.length ≤ max := by
  intro g
  have hrecords := records_run calls
  have h : Coherent g := hrecords.coherent
  have hfind : ∀ {id}, id ∈ g.nodeIds → ∃ i, g.find? id = some i := fun hid =>
    contains_iff.1 (h.contains_iff_mem.2 hid)
  refine ⟨?_, hrecords.numbered, ?_, h.nodup, fun call => make_of_isRefusal, ?_, ?_⟩
  · intro id i
    rw [← Option.map_eq_some_iff]
    exact h.find?_iff id i
  · intro l hl
    exact ⟨(h.bounds l hl).1, (h.bounds l hl).2, h.ne l hl⟩
  · intro id hid group
    obtain ⟨i, hi⟩ := hfind hid
    exact ⟨_, modifyNode_of_find? hi _, h.changedAt hi _⟩
  · intro id hid properties max
    obtain ⟨i, hi⟩ := hfind hid
    have hchanged := h.changedAt hi fun n => { n with properties := properties.take max }
    refine ⟨_, modifyNode_of_find? hi _, hchanged, fun node hnode hnodeId => ?_⟩
    obtain ⟨old, -, rfl⟩ := hchanged.of_mem hnode hnodeId
    exact List.length_take_le _ _

/-- Two nodes, one of them asked for twice, and an edge that is asked for twice. -/
def repeatedCalls : List Call :=
  [.addNode (.ofId "Cart"), .addNode (.ofId "Item"), .addNode (.ofId "Cart"),
    .addEdge "Cart" "Item", .addEdge "Cart" "Item", .addEdge "Item" "Item",
    .addEdge "Cart" "Shop"]

theorem log_repeatedCalls : empty.log repeatedCalls =
    repeatedCalls.zip [.number 0, .number 1, .fault (.duplicateNode "Cart"), .edge .added,
      .edge .duplicate, .edge .selfLoop, .fault (.nodeNotFound "Shop")] := by
  simp [repeatedCalls, log, make, settle, addNode, addEdge, contains, find?, findOrFault, empty,
    Node.ofId, Except.map, bind, Except.bind, pure, Except.pure, Std.HashMap.getElem_insert]

theorem nodes_repeatedCalls :
    (empty.run repeatedCalls).nodes = #[.ofId "Cart", .ofId "Item"] := by
  simp [repeatedCalls, run, make, settle, addNode, addEdge, contains, find?, findOrFault, empty,
    Node.ofId, Except.map, bind, Except.bind, pure, Except.pure, Std.HashMap.getElem_insert]

theorem run_fits_together_repeatedCalls :
    let g := empty.run repeatedCalls
    g.index["Item"]? = some 1 ∧
    ((g.make (.addEdge "Item" "Item")).2.isRefusal = true ∧
      (g.make (.addEdge "Item" "Item")).1 = g) ∧
    "Item" ∈ g.nodeIds ∧
    (∃ g', g.setGroup "Item" "sales" = .ok g' ∧
      g'.nodes.toList = [.ofId "Cart", ⟨"Item", some "sales", []⟩]) ∧
    ∃ g', g.setProperties "Item" [⟨"lines", "12"⟩, ⟨"path", "item.rs"⟩] 1 = .ok g' ∧
      g'.nodes.toList = [.ofId "Cart", ⟨"Item", none, [⟨"lines", "12"⟩]⟩] ∧
      ∀ node ∈ g'.nodes, node.id = "Item" → node.properties.length ≤ 1 := by
  intro g
  have hnodes : g.nodes = #[.ofId "Cart", .ofId "Item"] := nodes_repeatedCalls
  obtain ⟨hindex, -, -, -, hrefused, hgroup, hproperties⟩ := run_fits_together repeatedCalls
  have hitem : g.index["Item"]? = some 1 :=
    (hindex "Item" 1).2 ⟨.ofId "Item", by rw [hnodes]; rfl, rfl⟩
  have hloop : (g.make (.addEdge "Item" "Item")).2.isRefusal = true := by
    rw [make, addEdge_of_find? hitem hitem]
    rfl
  have hid : "Item" ∈ g.nodeIds := by
    rw [nodeIds, hnodes]
    decide
  refine ⟨hitem, ⟨hloop, hrefused _ hloop⟩, hid, ?_, ?_⟩
  · obtain ⟨g', hset, -, -, hchanged⟩ := hgroup "Item" hid "sales"
    rw [hnodes] at hchanged
    exact ⟨g', hset, hchanged⟩
  · obtain ⟨g', hset, ⟨-, -, hchanged⟩, hmax⟩ :=
      hproperties "Item" hid [⟨"lines", "12"⟩, ⟨"path", "item.rs"⟩] 1
    rw [hnodes] at hchanged
    exact ⟨g', hset, hchanged, hmax⟩

end ReferenceGraph
end RefAtlas.Graph
