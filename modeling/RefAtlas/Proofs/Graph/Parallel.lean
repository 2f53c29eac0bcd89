import Mathlib.Logic.Relation
import RefAtlas.Proofs.Graph.Build

/-! # Units that are read side by side

The units of a chunk are read side by side, and each puts its references into the shared map when
it is finished; the next chunk starts when all are. `Extraction.Step` leaves open which unit is
finished next.

* `Extraction.Sound`: what is in the map while units are read; every step keeps it.
* `Extracts`, `Builds`: the maps and the graphs that may come of it, `extractAll` and
  `ReferenceGraph.ofUnits` among them.
* `collect_perm`: units with distinct ids may be finished in any order.
* `order_independent`: neither the order of the units nor the number of workers nor the order in
  which units are finished changes the map or the edges.
-/

namespace RefAtlas.Graph
open RefAtlas.Reference RefAtlas.Source
set_option autoImplicit false

/-! ## Steps -/

/-- The chunks that wait, the units that are being read, and the map so far. -/
structure Extraction where
  waiting : List (List SourceUnit)
  running : List SourceUnit
  collected : Dictionary NameSet

namespace Extraction

def start (workers : Nat) (units : List SourceUnit) : Extraction :=
  ⟨chunks workers units, [], .empty⟩

/-- Any unit that is being read is finished, or the next chunk starts if there is none. -/
inductive Step (references : SourceUnit → NameSet) : Extraction → Extraction → Prop where
  | next (chunk : List SourceUnit) (waiting : List (List SourceUnit))
      (collected : Dictionary NameSet) :
      Step references ⟨chunk :: waiting, [], collected⟩ ⟨waiting, chunk, collected⟩
  | finish (waiting : List (List SourceUnit)) (before : List SourceUnit) (u : SourceUnit)
      (after : List SourceUnit) (collected : Dictionary NameSet) :
      Step references ⟨waiting, before ++ u :: after, collected⟩
        ⟨waiting, before ++ after, collected.insert u.id (references u)⟩

/-- What is left to do: the chunks to be started and the units to be finished. -/
def left (e : Extraction) : Nat :=
  e.waiting.length + e.waiting.flatten.length + e.running.length

/-- Every step leaves less to do, so there are no endless runs. -/
theorem Step.left_lt {references : SourceUnit → NameSet} {e e' : Extraction}
    (h : Step references e e') : e'.left < e.left := by
  cases h with
  | next chunk waiting collected =>
    simp only [left, List.length_cons, List.flatten_cons, List.length_append, List.length_nil]
    omega
  | finish waiting before u after collected =>
    simp only [left, List.length_append, List.length_cons]
    omega

end Extraction

/-- A map that is there when all units are finished. -/
def Extracts (references : SourceUnit → NameSet) (workers : Nat) (units : List SourceUnit)
    (map : Dictionary NameSet) : Prop :=
  Relation.ReflTransGen (Extraction.Step references) (.start workers units) ⟨[], [], map⟩

/-- A graph that comes of such a map. -/
def Builds (references : SourceUnit → NameSet) (workers : Nat) (units : List SourceUnit)
    (g : ReferenceGraph) : Prop :=
  ∃ map, Extracts references workers (distinctUnits units) map ∧
    g = .ofReferences (distinctUnits units) map

section Parallel
variable {references : SourceUnit → NameSet} {workers : Nat} {units : List SourceUnit}

theorem collect_append_singleton (finished : List SourceUnit) (u : SourceUnit) :
    collect references (finished ++ [u]) =
      (collect references finished).insert u.id (references u) := by
  rw [collect, List.map_append]
  exact Dictionary.ofList_append_singleton _ _

/-! ## What may come of it -/

/-- The map holds the finished units; no unit is lost or read twice. -/
def Extraction.Sound (references : SourceUnit → NameSet) (units : List SourceUnit)
    (e : Extraction) : Prop :=
  ∃ finished, e.collected = collect references finished ∧
    (finished ++ (e.running ++ e.waiting.flatten)).Perm units

theorem Extraction.sound_start (hworkers : 0 < workers) (units : List SourceUnit) :
    Extraction.Sound references units (.start workers units) := by
  refine ⟨[], rfl, ?_⟩
  rw [Extraction.start, flatten_chunks (Nat.ne_of_gt hworkers)]
  exact List.Perm.refl _

theorem Extraction.Sound.step {e e' : Extraction} (h : e.Sound references units)
    (hstep : Extraction.Step references e e') : e'.Sound references units := by
  obtain ⟨finished, hmap, hperm⟩ := h
  cases hstep with
  | next chunk waiting collected => exact ⟨finished, hmap, hperm⟩
  | finish waiting before u after collected =>
    refine ⟨finished ++ [u], ?_, List.Perm.trans ?_ hperm⟩
    · rw [collect_append_singleton, ← hmap]
    · rw [List.append_assoc, List.singleton_append]
      refine List.Perm.append_left finished ?_
      rw [List.append_assoc, List.append_assoc, List.cons_append]
      exact List.perm_middle.symm

theorem Extraction.Sound.steps {e e' : Extraction} (h : e.Sound references units)
    (hsteps : Relation.ReflTransGen (Extraction.Step references) e e') :
    e'.Sound references units := by
  induction hsteps with
  | refl => exact h
  | tail _ hstep ih => exact ih.step hstep

theorem Extracts.exists_finished (hworkers : 0 < workers) {map : Dictionary NameSet}
    (h : Extracts references workers units map) :
    ∃ finished, finished.Perm units ∧ map = collect references finished := by
  obtain ⟨finished, hmap, hperm⟩ := (Extraction.sound_start hworkers units).steps h
  rw [List.flatten_nil, List.append_nil, List.append_nil] at hperm
  exact ⟨finished, hperm, hmap⟩

/-! ## Finishing in turn -/

theorem Extraction.steps_running (references : SourceUnit → NameSet)
    (waiting : List (List SourceUnit)) (running finished : List SourceUnit) :
    Relation.ReflTransGen (Extraction.Step references)
      ⟨waiting, running, collect references finished⟩
      ⟨waiting, [], collect references (finished ++ running)⟩ := by
  induction running generalizing finished with
  | nil =>
    rw [List.append_nil]
  | cons u rest ih =>
    have hstep : Extraction.Step references ⟨waiting, u :: rest, collect references finished⟩
        ⟨waiting, rest, collect references (finished ++ [u])⟩ := by
      rw [collect_append_singleton]
      exact .finish waiting [] u rest _
    have hrest := ih (finished ++ [u])
    rw [List.append_assoc, List.singleton_append] at hrest
    exact Relation.ReflTransGen.head hstep hrest

theorem Extraction.steps_waiting (references : SourceUnit → NameSet)
    (waiting : List (List SourceUnit)) (finished : List SourceUnit) :
    Relation.ReflTransGen (Extraction.Step references)
      ⟨waiting, [], collect references finished⟩
      ⟨[], [], collect references (finished ++ waiting.flatten)⟩ := by
  induction waiting generalizing finished with
  | nil => rw [List.flatten_nil, List.append_nil]
  | cons chunk waiting ih =>
    have hchunk := Extraction.steps_running references waiting chunk finished
    have hrest := ih (finished ++ chunk)
    rw [List.append_assoc] at hrest
    exact Relation.ReflTransGen.head (.next chunk waiting _) (hchunk.trans hrest)

/-- Whatever is finished so far, the rest can be finished too. -/
theorem Extraction.Sound.exists_end {e : Extraction} (h : e.Sound references units) :
    ∃ map, Relation.ReflTransGen (Extraction.Step references) e ⟨[], [], map⟩ := by
  obtain ⟨waiting, running, collected⟩ := e
  obtain ⟨finished, rfl, -⟩ := h
  exact ⟨_, (Extraction.steps_running references waiting running finished).trans
    (Extraction.steps_waiting references waiting (finished ++ running))⟩

theorem extracts_extractAll (references : SourceUnit → NameSet) (workers : Nat)
    (units : List SourceUnit) :
    Extracts references workers units (extractAll references workers units) :=
  Extraction.steps_waiting references (chunks workers units) []

theorem builds_ofUnits (references : SourceUnit → NameSet) (workers : Nat)
    (units : List SourceUnit) :
    Builds references workers units (.ofUnits references workers units) :=
  ⟨_, extracts_extractAll references workers (distinctUnits units), rfl⟩

/-! ## Finishing in any order -/

theorem collect_perm {finished finished' : List SourceUnit}
    (hids : (finished.map SourceUnit.id).Nodup) (hperm : finished.Perm finished') :
    collect references finished = collect references finished' := by
  have hids' : (finished'.map SourceUnit.id).Nodup := (hperm.map _).nodup_iff.1 hids
  refine Dictionary.ext_get? fun id => Option.ext fun names => ?_
  rw [get?_collect hids, get?_collect hids']
  simp only [hperm.mem_iff]

theorem entries_collect_perm {finished : List SourceUnit}
    (hids : (finished.map SourceUnit.id).Nodup) :
    (collect references finished).entries.Perm (finished.map fun u => (u.id, references u)) := by
  have hkeys : (collect references finished).entries.Nodup :=
    List.Nodup.of_map Prod.fst (collect references finished).nodup_keys
  have hunits : (finished.map fun u => (u.id, references u)).Nodup := by
    refine List.Nodup.of_map Prod.fst ?_
    rw [List.map_map]
    exact hids
  refine (List.perm_ext_iff_of_nodup hkeys hunits).2 fun e => ?_
  rw [← Prod.eta e, Dictionary.mem_entries_iff, get?_collect hids, List.mem_map]
  simp only [Prod.mk.injEq]

theorem Extracts.eq_collect (hids : (units.map SourceUnit.id).Nodup) (hworkers : 0 < workers)
    {map : Dictionary NameSet} (h : Extracts references workers units map) :
    map = collect references units := by
  obtain ⟨finished, hperm, rfl⟩ := h.exists_finished hworkers
  exact collect_perm ((hperm.map _).nodup_iff.2 hids) hperm

theorem Builds.built (hids : (units.map SourceUnit.id).Nodup) (hworkers : 0 < workers)
    {g : ReferenceGraph} (h : Builds references workers units g) :
    g.Built units (mentions (collect references units)) := by
  obtain ⟨map, hmap, rfl⟩ := h
  rw [distinctUnits_of_nodup hids] at hmap ⊢
  rw [hmap.eq_collect hids hworkers]
  exact (ReferenceGraph.ofReferences_collect references hids (List.Perm.refl _)).2

/-- Graphs of the same units in two orders differ in the order of their nodes only. -/
theorem Builds.same {units' : List SourceUnit} {workers' : Nat} {g g' : ReferenceGraph}
    (hids : (units.map SourceUnit.id).Nodup) (hperm : units.Perm units')
    (hworkers : 0 < workers) (hworkers' : 0 < workers')
    (h : Builds references workers units g) (h' : Builds references workers' units' g') :
    g.nodes.toList.Perm g'.nodes.toList ∧ g.edges = g'.edges ∧
      ∀ id, g.dependencies id = g'.dependencies id ∧ g.dependents id = g'.dependents id := by
  have hids' : (units'.map SourceUnit.id).Nodup := (hperm.map _).nodup_iff.1 hids
  have hbuilt := h.built hids hworkers
  have hbuilt' := h'.built hids' hworkers'
  have hsame : ∀ s t, g.hasEdge s t = true ↔ g'.hasEdge s t = true := by
    intro s t
    rw [hbuilt.hasEdge_iff, hbuilt'.hasEdge_iff, collect_perm hids hperm,
      (hperm.map SourceUnit.id).mem_iff]
  refine ⟨?_, hbuilt.coherent.edges_eq hbuilt'.coherent hsame, fun id => ⟨?_, ?_⟩⟩
  · rw [hbuilt.nodes, hbuilt'.nodes]
    exact hperm.map _
  · exact hbuilt.coherent.dependencies_eq hbuilt'.coherent hsame id
  · exact hbuilt.coherent.dependents_eq hbuilt'.coherent hsame id

end Parallel

/-- However the units are ordered, shared out and finished, the map and the edges are the same. -/
theorem order_independent (files : SourceUnit → FileTexts) (config : ExtractionConfig)
    {units units' : List SourceUnit} {workers workers' : Nat}
    (hids : (units.map SourceUnit.id).Nodup) (hperm : units.Perm units')
    (hworkers : 0 < workers) (hworkers' : 0 < workers') :
    let references := fun u => u.references (files u) config
    (∀ e, Relation.ReflTransGen (Extraction.Step references) (.start workers units) e →
      ∃ map, Relation.ReflTransGen (Extraction.Step references) e ⟨[], [], map⟩) ∧
    (∀ map map', Extracts references workers units map → Extracts references workers' units' map' →
      map = map' ∧ map.entries.Perm (units.map fun u => (u.id, references u))) ∧
    (∀ g g', Builds references workers units g → Builds references workers' units' g' →
      g.nodeIds = units.map SourceUnit.id ∧ g'.nodeIds = units'.map SourceUnit.id ∧
      g.nodes.toList.Perm g'.nodes.toList ∧ g.edges = g'.edges ∧
      ∀ id, g.dependencies id = g'.dependencies id ∧ g.dependents id = g'.dependents id) ∧
    Extracts references workers units (extractAll references workers units) ∧
    Builds references workers units (.ofUnits references workers units) := by
  intro references
  have hids' : (units'.map SourceUnit.id).Nodup := (hperm.map _).nodup_iff.1 hids
  refine ⟨fun e h => ?_, fun map map' h h' => ?_, fun g g' h h' => ?_,
    extracts_extractAll references workers units, builds_ofUnits references workers units⟩
  · exact ((Extraction.sound_start hworkers units).steps h).exists_end
  · rw [h.eq_collect hids hworkers, h'.eq_collect hids' hworkers']
    exact ⟨collect_perm hids hperm, entries_collect_perm hids⟩
  · exact ⟨(h.built hids hworkers).nodeIds, (h'.built hids' hworkers').nodeIds,
      h.same hids hperm hworkers hworkers' h'⟩

/-- Three units, of which the last is read by itself where two are read side by side. -/
def ringUnits : List SourceUnit :=
  [⟨"A", .text "class A { public B b; }"⟩, ⟨"B", .text "class B { public C c; }"⟩,
    ⟨"C", .text "class C { public A a; }"⟩]

theorem order_independent_ringUnits :
    (ringUnits.map SourceUnit.id).Nodup ∧ ringUnits.Perm ringUnits.reverse ∧ 0 < 2 ∧ 0 < 1 ∧
    (ReferenceGraph.ofUnits (SourceUnit.references (fun _ => .error .notFound) .standard) 2
      ringUnits).edges =
    (ReferenceGraph.ofUnits (SourceUnit.references (fun _ => .error .notFound) .standard) 1
      ringUnits.reverse).edges := by
  have hids : (ringUnits.map SourceUnit.id).Nodup := by decide
  have hperm : ringUnits.Perm ringUnits.reverse := (List.reverse_perm ringUnits).symm
  obtain ⟨-, -, hgraphs, -, hbuilds⟩ := order_independent (fun _ _ => .error .notFound) .standard
    hids hperm (by decide : 0 < 2) (by decide : 0 < 1)
  obtain ⟨-, -, -, hedges, -⟩ := hgraphs _ _ hbuilds (builds_ofUnits _ 1 ringUnits.reverse)
  exact ⟨hids, hperm, by decide, by decide, hedges⟩

end RefAtlas.Graph
