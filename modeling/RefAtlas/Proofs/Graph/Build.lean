import RefAtlas.Graph.Build
import RefAtlas.Proofs.Graph.Coherence
import RefAtlas.Proofs.Source.Distinct

/-! # What the graph of a list of units is

The graph is built with calls that may fail. `ReferenceGraph.ofUnitsOrFault` makes the same calls
and stops at the first failure; there is none, and the graph is known by its nodes and edges.

* `mentions`: the names to be looked up, each with the id of the unit that refers to it.
* `ReferenceGraph.Built`: the nodes and edges after some of the mentions; `Built.addUnit` and
  `Built.addReference` say that every step keeps it.
* `ReferenceGraph.ofReferences_built`: the graph of units and their references.
* `ReferenceGraph.ofUnits_nodes_edges`: the graph of a list of units.
-/

namespace RefAtlas.Graph
open RefAtlas.Reference RefAtlas.Source
set_option autoImplicit false

/-! ## Folds whose steps may fail -/

/-- Where every step succeeds, the fold does, and what every step keeps holds in the end. -/
theorem foldlM_eq_ok {σ β ε : Type} {tryStep : σ → β → Except ε σ} {step : σ → β → σ}
    {P : List β → σ → Prop} {l : List β} {s : σ} (hP : P [] s)
    (hstep : ∀ done x rest t, l = done ++ x :: rest → P done t →
      tryStep t x = .ok (step t x) ∧ P (done ++ [x]) (step t x)) :
    l.foldlM tryStep s = .ok (l.foldl step s) ∧ P l (l.foldl step s) := by
  -- over prefixes, because a step may need to know what is done before it
  have hprefix : ∀ done rest, l = done ++ rest →
      done.foldlM tryStep s = .ok (done.foldl step s) ∧ P done (done.foldl step s) := by
    intro done
    induction done using List.reverseRecOn with
    | nil => exact fun _ _ => ⟨rfl, hP⟩
    | append_singleton done x ih =>
      intro rest hl
      rw [List.append_assoc, List.singleton_append] at hl
      obtain ⟨hok, hdone⟩ := ih (x :: rest) hl
      obtain ⟨hx, hnext⟩ := hstep done x rest _ hl hdone
      rw [List.foldlM_append, hok, List.foldl_append]
      refine ⟨?_, hnext⟩
      change [x].foldlM tryStep (done.foldl step s) = _
      rw [List.foldlM_cons, hx]
      rfl
  exact hprefix l [] (List.append_nil l).symm

/-- The names to be looked up, with the ids of the units that refer to them, in the order in which
edges are added. -/
def mentions (references : Dictionary NameSet) : List (String × String) :=
  references.entries.flatMap fun e => e.2.names.map fun name => (e.1, name)

theorem mem_mentions {references : Dictionary NameSet} {id name : String} :
    (id, name) ∈ mentions references ↔
      ∃ names, references.get? id = some names ∧ name ∈ names := by
  rw [mentions, List.mem_flatMap]
  constructor
  · rintro ⟨⟨key, names⟩, he, hname⟩
    obtain ⟨name', hname', heq⟩ := List.mem_map.1 hname
    obtain ⟨rfl, rfl⟩ := Prod.mk.inj heq
    exact ⟨names, Dictionary.mem_entries_iff.1 he, hname'⟩
  · rintro ⟨names, hget, hname⟩
    exact ⟨(id, names), Dictionary.mem_entries_iff.2 hget, List.mem_map_of_mem hname⟩

section Collect
variable {references : SourceUnit → NameSet} {units finished : List SourceUnit}

/-- Units with distinct ids each have their own references, whatever the order in which they are
finished. -/
theorem get?_collect (hids : (finished.map SourceUnit.id).Nodup) {id : String} {names : NameSet} :
    (collect references finished).get? id = some names ↔
      ∃ u ∈ finished, u.id = id ∧ references u = names := by
  have hmem : ∀ key v, (key, v) ∈ (finished.map fun u => (u.id, references u)) ↔
      ∃ u ∈ finished, u.id = key ∧ references u = v := by
    intro key v
    simp only [List.mem_map, Prod.mk.injEq]
  rw [collect, Dictionary.get?_ofList_eq_some_iff, hmem]
  intro key v w hv hw
  obtain ⟨u, hu, huid, rfl⟩ := (hmem key v).1 hv
  obtain ⟨u', hu', huid', rfl⟩ := (hmem key w).1 hw
  rw [List.inj_on_of_nodup_map hids hu hu' (huid.trans huid'.symm)]

theorem mem_mentions_collect (hids : (finished.map SourceUnit.id).Nodup) {id name : String} :
    (id, name) ∈ mentions (collect references finished) ↔
      ∃ u ∈ finished, u.id = id ∧ name ∈ references u := by
  rw [mem_mentions]
  constructor
  · rintro ⟨names, hget, hname⟩
    obtain ⟨u, hu, hid, rfl⟩ := (get?_collect hids).1 hget
    exact ⟨u, hu, hid, hname⟩
  · rintro ⟨u, hu, hid, hname⟩
    exact ⟨references u, (get?_collect hids).2 ⟨u, hu, hid, rfl⟩, hname⟩

theorem extractAll_eq {workers : Nat} (hworkers : 0 < workers) (units : List SourceUnit) :
    extractAll references workers units = collect references units := by
  rw [extractAll, flatten_chunks (Nat.ne_of_gt hworkers)]

end Collect

namespace ReferenceGraph

/-! ## Building with faults -/

/-- Adds a node for a unit, or gives the fault of that. -/
def addUnitOrFault (g : ReferenceGraph) (u : SourceUnit) : Except GraphFault ReferenceGraph :=
  (g.addNode (.ofId u.id)).map Prod.fst

/-- Adds the edge for a mention that leads to another unit, or gives the fault of that. -/
def addReferenceOrFault (g : ReferenceGraph) (id name : String) :
    Except GraphFault ReferenceGraph :=
  let target := shortName name
  if target == id || !g.contains target then .ok g else (g.addEdge id target).map Prod.fst

/-- The nodes of units and the edges of their references, or the first fault on the way. -/
def ofReferencesOrFault (units : List SourceUnit) (references : Dictionary NameSet) :
    Except GraphFault ReferenceGraph := do
  let g ← units.foldlM addUnitOrFault empty
  (mentions references).foldlM (fun g m => g.addReferenceOrFault m.1 m.2) g

/-- The graph of a list of units, or the first fault on the way. -/
def ofUnitsOrFault (references : SourceUnit → NameSet) (workers : Nat)
    (units : List SourceUnit) : Except GraphFault ReferenceGraph :=
  ofReferencesOrFault (distinctUnits units) (extractAll references workers (distinctUnits units))

theorem ofReferences_eq (units : List SourceUnit) (references : Dictionary NameSet) :
    ofReferences units references =
      (mentions references).foldl (fun g m => g.addReference m.1 m.2)
        (units.foldl addUnit empty) := by
  rw [ofReferences, mentions, List.foldl_flatMap]
  simp only [List.foldl_map]

/-! ## Nodes and edges along the way -/

/-- The graph with a node for each unit and the edges of some mentions. -/
structure Built (units : List SourceUnit) (done : List (String × String)) (g : ReferenceGraph) :
    Prop where
  coherent : Coherent g
  nodes : g.nodes.toList = units.map fun u => .ofId u.id
  hasEdge_iff : ∀ s t, g.hasEdge s t = true ↔
    ∃ name, (s, name) ∈ done ∧ shortName name = t ∧ t ≠ s ∧ t ∈ units.map SourceUnit.id

theorem built_empty : Built [] [] empty where
  coherent := coherent_empty
  nodes := rfl
  hasEdge_iff s t := by simp [hasEdge, find?, empty]

section Built
variable {units : List SourceUnit} {done : List (String × String)} {g : ReferenceGraph}

theorem Built.nodeIds (h : Built units done g) : g.nodeIds = units.map SourceUnit.id := by
  rw [ReferenceGraph.nodeIds, h.nodes, List.map_map]
  rfl

theorem Built.contains_iff (h : Built units done g) {id : String} :
    g.contains id = true ↔ id ∈ units.map SourceUnit.id := by
  rw [h.coherent.contains_iff_mem, h.nodeIds]

theorem Built.addUnit (h : Built units [] g) {u : SourceUnit}
    (hu : u.id ∉ units.map SourceUnit.id) :
    g.addUnitOrFault u = .ok (g.addUnit u) ∧ Built (units ++ [u]) [] (g.addUnit u) := by
  have hfresh : g.contains (Node.ofId u.id).id = false :=
    Bool.eq_false_iff.2 fun hc => hu (h.contains_iff.1 hc)
  obtain ⟨g', hadd, hcoherent, hnodes, hedge⟩ := addNode_spec h.coherent hfresh
  have hg' : g.addUnit u = g' := by rw [ReferenceGraph.addUnit, hadd]
  refine ⟨by rw [addUnitOrFault, hadd, hg']; rfl, hg' ▸ ⟨hcoherent, ?_, fun s t => ?_⟩⟩
  · rw [hnodes, Array.toList_push, h.nodes, List.map_append]
    rfl
  · rw [hedge, h.hasEdge_iff]
    simp

theorem Built.mentioned_iff (h : Built units done g) {id name : String} (s t : String) :
    (∃ name', (s, name') ∈ done ++ [(id, name)] ∧ shortName name' = t ∧ t ≠ s ∧
      t ∈ units.map SourceUnit.id) ↔ g.hasEdge s t = true ∨
        (s = id ∧ t = shortName name ∧ t ≠ s ∧ t ∈ units.map SourceUnit.id) := by
  rw [h.hasEdge_iff]
  constructor
  · rintro ⟨name', hmem, ht, hne, hunit⟩
    rcases List.mem_append.1 hmem with hmem | hmem
    · exact .inl ⟨name', hmem, ht, hne, hunit⟩
    · obtain ⟨rfl, rfl⟩ := Prod.mk.inj (List.mem_singleton.1 hmem)
      exact .inr ⟨rfl, ht.symm, hne, hunit⟩
  · rintro (⟨name', hmem, ht, hne, hunit⟩ | ⟨rfl, rfl, hne, hunit⟩)
    · exact ⟨name', List.mem_append_left _ hmem, ht, hne, hunit⟩
    · exact ⟨name, List.mem_append_right _ (List.mem_singleton.2 rfl), rfl, hne, hunit⟩

/-- A mention that leads to no unit or back to its own. -/
theorem Built.addReference_of_skipped (h : Built units done g) {id name : String}
    (hskip : (shortName name == id || !g.contains (shortName name)) = true) :
    g.addReferenceOrFault id name = .ok (g.addReference id name) ∧
      Built units (done ++ [(id, name)]) (g.addReference id name) := by
  have hsame : g.addReference id name = g := by
    rw [ReferenceGraph.addReference, if_pos hskip]
  refine ⟨by rw [addReferenceOrFault, if_pos hskip, hsame],
    hsame.symm ▸ ⟨h.coherent, h.nodes, fun s t => ?_⟩⟩
  rw [h.mentioned_iff]
  refine (or_iff_left ?_).symm
  rintro ⟨rfl, rfl, hne, hunit⟩
  rcases Bool.or_eq_true_iff.1 hskip with hself | hgone
  · exact hne (beq_iff_eq.1 hself)
  · rw [h.contains_iff.2 hunit] at hgone
    cases hgone

theorem Built.addReference (h : Built units done g) {id name : String}
    (hid : id ∈ units.map SourceUnit.id) :
    g.addReferenceOrFault id name = .ok (g.addReference id name) ∧
      Built units (done ++ [(id, name)]) (g.addReference id name) := by
  by_cases hskip : (shortName name == id || !g.contains (shortName name)) = true
  · exact h.addReference_of_skipped hskip
  · obtain ⟨hself, hthere⟩ := not_or.1 fun hor => hskip (Bool.or_eq_true_iff.2 hor)
    have hne : id ≠ shortName name := fun heq => hself (beq_iff_eq.2 heq.symm)
    have htarget : g.contains (shortName name) = true := by simpa using hthere
    obtain ⟨g', outcome, hadd, hcoherent, hnodes, hedge⟩ :=
      addEdge_spec h.coherent (h.contains_iff.2 hid) htarget
    have hg' : g.addReference id name = g' := by
      rw [ReferenceGraph.addReference, if_neg hskip]
      simp only [hadd]
    refine ⟨?_, hg' ▸ ⟨hcoherent, hnodes ▸ h.nodes, fun s t => ?_⟩⟩
    · rw [addReferenceOrFault, if_neg hskip]
      simp only [hadd, hg']
      rfl
    · rw [hedge, h.mentioned_iff]
      refine or_congr_right ⟨?_, ?_⟩
      · rintro ⟨rfl, rfl, -⟩
        exact ⟨rfl, rfl, hne.symm, h.contains_iff.1 htarget⟩
      · rintro ⟨rfl, rfl, -⟩
        exact ⟨rfl, rfl, hne⟩

end Built

/-! ## The whole graph -/

/-- For units with distinct ids and references of these units only, no call fails. -/
theorem ofReferences_built {units : List SourceUnit} {references : Dictionary NameSet}
    (hids : (units.map SourceUnit.id).Nodup)
    (hfrom : ∀ id name, (id, name) ∈ mentions references → id ∈ units.map SourceUnit.id) :
    ofReferencesOrFault units references = .ok (ofReferences units references) ∧
      Built units (mentions references) (ofReferences units references) := by
  obtain ⟨hnodes, hbase⟩ : units.foldlM addUnitOrFault empty = .ok (units.foldl addUnit empty) ∧
      Built units [] (units.foldl addUnit empty) := by
    refine foldlM_eq_ok (P := fun done g => Built done [] g) built_empty ?_
    -- ids are distinct, so no unit meets the node of an earlier one
    rintro done u rest g rfl hg
    refine hg.addUnit fun hmem => ?_
    rw [List.map_append, List.map_cons] at hids
    exact (List.nodup_append.1 hids).2.2 _ hmem _ List.mem_cons_self rfl
  rw [ofReferencesOrFault, hnodes, ofReferences_eq]
  refine foldlM_eq_ok (P := Built units) hbase fun done m rest g hm hg => hg.addReference ?_
  exact hfrom m.1 m.2 (hm ▸ List.mem_append_right _ List.mem_cons_self)

theorem ofReferences_collect (references : SourceUnit → NameSet)
    {units finished : List SourceUnit} (hids : (units.map SourceUnit.id).Nodup)
    (hperm : finished.Perm units) :
    ofReferencesOrFault units (collect references finished) =
        .ok (ofReferences units (collect references finished)) ∧
      Built units (mentions (collect references finished))
        (ofReferences units (collect references finished)) := by
  have hids' : (finished.map SourceUnit.id).Nodup := (hperm.map _).nodup_iff.2 hids
  refine ofReferences_built hids fun id name hmem => ?_
  obtain ⟨u, hu, rfl, -⟩ := (mem_mentions_collect hids').1 hmem
  exact List.mem_map_of_mem (hperm.mem_iff.1 hu)

/-! ## Lists of units -/

section Units
variable {references : SourceUnit → NameSet} {workers : Nat}

theorem ofUnits_eq (hworkers : 0 < workers) (units : List SourceUnit) :
    ofUnits references workers units =
      ofReferences (distinctUnits units) (collect references (distinctUnits units)) := by
  rw [ofUnits, extractAll_eq hworkers]

theorem ofUnits_built (references : SourceUnit → NameSet) (hworkers : 0 < workers)
    (units : List SourceUnit) :
    ofUnitsOrFault references workers units = .ok (ofUnits references workers units) ∧
      Built (distinctUnits units) (mentions (collect references (distinctUnits units)))
        (ofUnits references workers units) := by
  rw [ofUnits_eq hworkers, ofUnitsOrFault, extractAll_eq hworkers]
  exact ofReferences_collect references (nodup_ids_distinctUnits units) (List.Perm.refl _)

/-- A unit whose id occurs before it might as well not be there. -/
theorem ofUnits_append_cons {before after : List SourceUnit} {u : SourceUnit}
    (h : u.id ∈ before.map SourceUnit.id) :
    ofUnits references workers (before ++ u :: after) =
      ofUnits references workers (before ++ after) := by
  have hsame : distinctUnits (before ++ u :: after) = distinctUnits (before ++ after) :=
    firstOfEach_append_cons (.inr h)
  rw [ofUnits, ofUnits, hsame]

end Units

/-- The nodes are the distinct ids in the order in which they first occur, and the edges lead from a
unit that is the first with its id to the other units that it refers to. -/
theorem ofUnits_nodes_edges (files : SourceUnit → FileTexts) (config : ExtractionConfig)
    {workers : Nat} (hworkers : 0 < workers) (units : List SourceUnit) :
    let references := fun u => u.references (files u) config
    let g := ofUnits references workers units
    g.nodes.toList = (units.map SourceUnit.id).eraseDups.map Node.ofId ∧
    g.edges.Nodup ∧
    (∀ s t, Edge.mk s t ∈ g.edges ↔
      ∃ u, units.find? (fun v => v.id == s) = some u ∧
        ∃ name ∈ references u, shortName name = t ∧ t ≠ s ∧ t ∈ units.map SourceUnit.id) ∧
    (∀ before u after, units = before ++ u :: after → u.id ∈ before.map SourceUnit.id →
      ofUnits references workers (before ++ after) = g) ∧
    ofUnitsOrFault references workers units = .ok g := by
  intro references g
  obtain ⟨hok, hbuilt⟩ := ofUnits_built references hworkers units
  refine ⟨?_, ?_, fun s t => ?_, ?_, hok⟩
  · rw [hbuilt.nodes, ← ids_distinctUnits, List.map_map]
    rfl
  · refine hbuilt.coherent.pairwise_edges.imp fun {e f} hlt heq => ?_
    subst heq
    exact Edge.asymm e e hlt hlt
  · rw [hbuilt.coherent.mem_edges_iff, hbuilt.hasEdge_iff]
    simp only [mem_mentions_collect (nodup_ids_distinctUnits units), mem_distinctUnits,
      mem_ids_distinctUnits]
    constructor
    · rintro ⟨name, ⟨u, hu, rfl, hname⟩, ht⟩
      exact ⟨u, hu, name, hname, ht⟩
    · rintro ⟨u, hu, name, hname, ht⟩
      have hid : u.id = s := by simpa using List.find?_some hu
      subst hid
      exact ⟨name, ⟨u, hu, rfl, hname⟩, ht⟩
  · rintro before u after rfl hu
    exact (ofUnits_append_cons hu).symm

/-- An id that is repeated, names with and without qualifiers for one target, a name that leads back
and one that leads nowhere, and a file that cannot be read. -/
def repeatedUnits : List SourceUnit :=
  [⟨"A", .text "class A { public Game.B x; public B y; public A z; public Gone w; }"⟩,
    ⟨"B", .file "b.cs"⟩, ⟨"A", .text "class A { public C c; }"⟩, ⟨"C", .text "class C { }"⟩]

theorem ofUnits_nodes_edges_repeatedUnits : 0 < 2 ∧
    (ofUnits (SourceUnit.references (fun _ => .error .notFound) .fieldsOnly) 2
      repeatedUnits).nodes.toList = [.ofId "A", .ofId "B", .ofId "C"] ∧
    Edge.mk "A" "B" ∈ (ofUnits (SourceUnit.references (fun _ => .error .notFound) .fieldsOnly) 2
      repeatedUnits).edges ∧
    Edge.mk "A" "C" ∉ (ofUnits (SourceUnit.references (fun _ => .error .notFound) .fieldsOnly) 2
      repeatedUnits).edges := by
  obtain ⟨hnodes, -, hedges, -, -⟩ := ofUnits_nodes_edges (fun _ _ => .error .notFound) .fieldsOnly
    (by decide : 0 < 2) repeatedUnits
  have hnames : (SourceUnit.references (fun _ => .error .notFound) .fieldsOnly
      ⟨"A", .text "class A { public Game.B x; public B y; public A z; public Gone w; }"⟩).names =
        ["A", "B", "Game.B", "Gone"] := by decide +kernel
  refine ⟨by decide, hnodes, (hedges _ _).2 ⟨_, rfl, "Game.B", ?_, ?_, ?_, ?_⟩, fun hmem => ?_⟩
  · have hname : "Game.B" ∈ ["A", "B", "Game.B", "Gone"] := by decide
    rw [← hnames] at hname
    exact hname
  · decide
  · decide
  · decide
  · obtain ⟨u, hu, name, hname, ht, -⟩ := (hedges _ _).1 hmem
    obtain rfl := Option.some.inj hu
    have hno : ∀ name ∈ ["A", "B", "Game.B", "Gone"], shortName name ≠ "C" := by decide
    rw [← hnames] at hno
    exact hno name hname ht

end ReferenceGraph

end RefAtlas.Graph
