import RefAtlas.Layout.Data
import RefAtlas.Number.Single
import RefAtlas.Proofs.Chunk
import RefAtlas.Proofs.Graph.Coherence
import RefAtlas.Proofs.Layout.Config
import Std.Data.String.ToNat

/-! # What the batches of a run cover

A run in batches adds the nodes that it uses one after the other. It comes to its end if no id
stands there twice, and else the first repeated one stops it, in whatever batch that is.

* `FirstRepeat`, `UpToRepeat`: what may stop a run, and a step that may be stopped so;
  `UpToRepeat.foldlM` passes from one step to all of them.
* `Holds.addNodes`: the nodes of one batch. `BatchRun.Reached.next`: one batch.
* `runBatched_upToRepeat`: all batches, after which the run is the one that `BatchRun.Covers`
  describes (`BatchRun.Reached.covers`).
-/

namespace RefAtlas.Layout
open RefAtlas.Data RefAtlas.Graph RefAtlas.Graph.ReferenceGraph RefAtlas.Number
set_option autoImplicit false

/-! ## The first repetition -/

/-- An id that stands in front of a place as well as there, and no id does so for an earlier place.
-/
def FirstRepeat (ids : List String) (id : String) : Prop :=
  ∃ before after, ids = before ++ id :: after ∧ before.Nodup ∧ id ∈ before

section FirstRepeat
variable {ids more : List String} {id id' : String}

theorem FirstRepeat.of_prefix (h : FirstRepeat ids id) (hmore : ids <+: more) :
    FirstRepeat more id := by
  obtain ⟨before, after, rfl, hnodup, hid⟩ := h
  obtain ⟨rest, rfl⟩ := hmore
  exact ⟨before, after ++ rest, by simp, hnodup, hid⟩

theorem FirstRepeat.not_nodup (h : FirstRepeat ids id) : ¬ids.Nodup := by
  obtain ⟨before, after, rfl, -, hid⟩ := h
  intro hnodup
  exact (List.nodup_append.1 hnodup).2.2 id hid id List.mem_cons_self rfl

theorem FirstRepeat.unique (h : FirstRepeat ids id) (h' : FirstRepeat ids id') : id = id' := by
  obtain ⟨before, after, rfl, hnodup, hid⟩ := h
  obtain ⟨before', after', hsplit, hnodup', hid'⟩ := h'
  -- the place that comes later would have a repetition in front of it
  rcases List.append_eq_append_iff.1 hsplit with ⟨between, rfl, hrest⟩ | ⟨between, rfl, hrest⟩
  · cases between with
    | nil => exact (List.cons.inj hrest).1
    | cons first between =>
      obtain ⟨rfl, -⟩ := List.cons.inj hrest
      exact absurd rfl ((List.nodup_append.1 hnodup').2.2 id hid id List.mem_cons_self)
  · cases between with
    | nil => exact (List.cons.inj hrest).1.symm
    | cons first between =>
      obtain ⟨rfl, -⟩ := List.cons.inj hrest
      exact absurd rfl ((List.nodup_append.1 hnodup).2.2 id' hid' id' List.mem_cons_self)

end FirstRepeat

/-- What comes of a step over ids: something good, or the fault of the first repeated one of them.
-/
inductive UpToRepeat {ε σ : Type} (fault : String → ε) (ids : List String) (good : σ → Prop) :
    Except ε σ → Prop
  | done {s : σ} (h : good s) : UpToRepeat fault ids good (.ok s)
  | stopped {id : String} (h : FirstRepeat ids id) : UpToRepeat fault ids good (.error (fault id))

/-- If every step is good or stopped, so are all together. Each item stands for some ids, and more
items stand for more ids. -/
theorem UpToRepeat.foldlM {β ε σ : Type} {fault : String → ε} {step : σ → β → Except ε σ}
    {good : List β → σ → Prop} (idsOf : List β → List String)
    (hids : ∀ items more, idsOf items <+: idsOf (items ++ more))
    (hstep : ∀ items item s, good items s →
      UpToRepeat fault (idsOf (items ++ [item])) (good (items ++ [item])) (step s item))
    {items : List β} {s : σ} (h : good items s) (rest : List β) :
    UpToRepeat fault (idsOf (items ++ rest)) (good (items ++ rest)) (rest.foldlM step s) := by
  induction rest generalizing items s with
  | nil =>
    rw [List.append_nil]
    exact .done h
  | cons item rest ih =>
    have hcons : items ++ item :: rest = items ++ [item] ++ rest := by simp
    rw [List.foldlM_cons, hcons]
    generalize hresult : step s item = result
    cases hresult ▸ hstep items item s h with
    | done hnext => exact ih hnext
    -- what is first in the ids so far stays first in all of them
    | stopped hrepeat => exact .stopped (hrepeat.of_prefix (hids _ rest))

section Result
variable {ε σ : Type} {fault : String → ε} {ids : List String} {good : σ → Prop}
  {result : Except ε σ}

theorem UpToRepeat.good_of_ok (h : UpToRepeat fault ids good result) {s : σ} (hs : result = .ok s) :
    good s := by
  cases h with
  | done h => exact Except.ok.inj hs ▸ h
  | stopped _ => cases hs

theorem UpToRepeat.exists_ok_iff (h : UpToRepeat fault ids good result)
    (hgood : ∀ s, good s → ids.Nodup) : (∃ s, result = .ok s) ↔ ids.Nodup := by
  cases h with
  | @done s h => exact iff_of_true ⟨s, rfl⟩ (hgood s h)
  | stopped h => exact iff_of_false (fun ⟨_, hok⟩ => nomatch hok) h.not_nodup

theorem UpToRepeat.eq_error_iff (h : UpToRepeat fault ids good result)
    (hgood : ∀ s, good s → ids.Nodup) (e : ε) :
    result = .error e ↔ ∃ id, FirstRepeat ids id ∧ e = fault id := by
  cases h with
  | @done s h =>
    exact iff_of_false (fun herror => nomatch herror)
      fun ⟨_, hrepeat, _⟩ => hrepeat.not_nodup (hgood s h)
  | @stopped id h =>
    constructor
    · intro herror
      exact ⟨id, h, (Except.error.inj herror).symm⟩
    · rintro ⟨id', h', rfl⟩
      rw [h.unique h']

end Result

/-! ## Nodes that are added one after the other -/

/-- A graph of these nodes, in this order, without edges. -/
structure Holds (ids : List String) (g : ReferenceGraph) : Prop where
  coherent : g.Coherent
  nodes : g.nodes.toList = ids.map Node.ofId
  links : g.links = []

section Holds
variable {ids : List String} {g : ReferenceGraph}

theorem holds_empty : Holds [] .empty := ⟨coherent_empty, rfl, rfl⟩

theorem Holds.nodeIds (h : Holds ids g) : g.nodeIds = ids := by
  rw [ReferenceGraph.nodeIds, h.nodes, List.map_map]
  exact List.map_id ids

theorem Holds.edges (h : Holds ids g) : g.edges = [] := by
  rw [ReferenceGraph.edges, h.links, List.map_nil, List.mergeSort_nil]

theorem Holds.nodup (h : Holds ids g) : ids.Nodup := h.nodeIds ▸ h.coherent.nodup_nodeIds

theorem Holds.addNode (h : Holds ids g) (id : String) :
    UpToRepeat .duplicateNode (ids ++ [id]) (Holds (ids ++ [id]))
      ((g.addNode (.ofId id)).map Prod.fst) := by
  -- the ids so far have no repetition, so one that is there already is the first
  by_cases hid : id ∈ ids
  · have hseen : g.contains id = true := h.coherent.contains_iff_mem.2 (h.nodeIds ▸ hid)
    have hfault : g.addNode (.ofId id) = .error (.duplicateNode id) := by
      rw [ReferenceGraph.addNode, if_pos (show g.contains (Node.ofId id).id = true from hseen)]
      rfl
    rw [hfault]
    exact .stopped ⟨ids, [], rfl, h.nodup, hid⟩
  · have hfresh : g.contains (Node.ofId id).id = false :=
      Bool.eq_false_iff.2 fun hseen => hid (h.nodeIds ▸ h.coherent.contains_iff_mem.1 hseen)
    rw [addNode_of_fresh hfresh]
    refine .done ⟨h.coherent.pushNode hfresh, ?_, h.links⟩
    rw [Array.toList_push, h.nodes, List.map_append, List.map_singleton]

theorem Holds.addNodes (h : Holds ids g) (more : List String) :
    UpToRepeat .duplicateNode (ids ++ more) (Holds (ids ++ more)) (BatchRun.addNodes g more) := by
  have hstep : ∀ items id g, Holds items g →
      UpToRepeat .duplicateNode (items ++ [id]) (Holds (items ++ [id]))
        ((g.addNode (.ofId id)).map Prod.fst) := fun items id g h => h.addNode id
  exact UpToRepeat.foldlM (fun items => items) List.prefix_append hstep h more

end Holds

/-! ## One batch after the other -/

variable {α : Type}

/-- What a report says about the batches of a run, whatever it says about their times. -/
structure Reports (sizes : List ℕ) (total : ℕ) (report : Value) : Prop where
  metrics : ∃ rows, report.field? "metrics" = some (.list rows) ∧
    rows.map (·.field? "batch_number") =
      (List.range sizes.length).map (fun i => some (.ofNat (i + 1))) ∧
    rows.map (·.field? "nodes_in_batch") = sizes.map (fun size => some (.ofNat size))
  summary : ∃ summary, report.field? "summary" = some summary ∧
    summary.field? "total_nodes" = some (.ofNat total) ∧
    summary.field? "batches" = some (.ofNat sizes.length)

theorem BatchRun.reports (run : BatchRun α) (timing : Option Timing) :
    Reports run.batchSizes run.totalNodes (run.report timing) where
  metrics := by
    refine ⟨_, rfl, ?_, ?_⟩
    · rw [List.map_map, List.range_eq_range', ← List.zipIdx_map_snd 0 run.batchSizes, List.map_map]
      rfl
    · conv_rhs => rw [← List.zipIdx_map_fst 0 run.batchSizes]
      rw [List.map_map, List.map_map]
      rfl
  summary := ⟨_, rfl, rfl, rfl⟩

variable [Scalar α] {uniform : UniformConfig α} {total : ℕ} {run : BatchRun α}
  {pieces : List (List String)}

namespace BatchRun

/-- A run after some batches. -/
structure Reached (uniform : UniformConfig α) (total : ℕ) (pieces : List (List String))
    (run : BatchRun α) : Prop where
  total : run.totalNodes = total
  graph : Holds pieces.flatten run.graph
  layouts : run.layouts = pieces.map fun piece => arrangeUniform piece .empty uniform
  sizes : run.batchSizes = pieces.map List.length

theorem reached_start (uniform : UniformConfig α) (total : ℕ) :
    (start total : BatchRun α).Reached uniform total [] := ⟨rfl, holds_empty, rfl, rfl⟩

theorem Reached.next (h : run.Reached uniform total pieces) (batch : List String) :
    UpToRepeat (fun id => .graph (.duplicateNode id)) (pieces ++ [batch]).flatten
      (Reached uniform total (pieces ++ [batch])) (run.next uniform batch) := by
  have hadded := h.graph.addNodes batch
  have hflatten : (pieces ++ [batch]).flatten = pieces.flatten ++ batch := by simp
  rw [BatchRun.next, grow, hflatten]
  generalize BatchRun.addNodes run.graph batch = result at hadded
  cases hadded with
  | done hgraph =>
    refine .done ⟨h.total, hflatten ▸ hgraph, ?_, ?_⟩
    · simp only [layOut, h.layouts, List.map_append, List.map_singleton]
    · simp only [layOut, h.sizes, List.map_append, List.map_singleton]
  | stopped hrepeat => exact .stopped hrepeat

/-- A run over these nodes in these pieces: what it holds, and what it reports. -/
structure Covers (uniform : UniformConfig α) (used : List String) (pieces : List (List String))
    (run : BatchRun α) : Prop where
  nodeIds : run.graph.nodeIds = used
  edges : run.graph.edges = []
  layouts : run.layouts = pieces.map fun piece => arrangeUniform piece .empty uniform
  totalNodes : run.totalNodes = used.length
  sum_sizes : (pieces.map List.length).sum = run.totalNodes
  reports : ∀ timing, Reports (pieces.map List.length) run.totalNodes (run.report timing)

theorem Reached.covers {used : List String} (h : run.Reached uniform used.length pieces)
    (hused : pieces.flatten = used) : run.Covers uniform used pieces where
  nodeIds := hused ▸ h.graph.nodeIds
  edges := h.graph.edges
  layouts := h.layouts
  totalNodes := h.total
  sum_sizes := by rw [h.total, ← hused, List.length_flatten]
  reports timing := h.sizes ▸ run.reports timing

end BatchRun

section RunBatched
variable {config : BatchConfig}

theorem BatchConfig.batchCount_eq (hconfig : config.validate = .ok ()) :
    config.batchCount = config.maxNodes ⌈/⌉ config.batchSize := by
  have hsize : 0 < config.batchSize := validate_eq_ok_iff.1 hconfig
  rw [batchCount, if_neg (by simpa using Nat.ne_of_gt hsize), ceilDiv_eq _ hsize]

theorem flatten_batches (nodes : List String) (hconfig : config.validate = .ok ()) :
    (batches nodes config).flatten = usedNodes nodes config :=
  flatten_chunks (Nat.ne_of_gt (BatchConfig.validate_eq_ok_iff.1 hconfig)) _

/-- All batches of a run come to their end, or the first repeated id stops one of them. -/
theorem runBatched_upToRepeat (nodes : List String) (hconfig : config.validate = .ok ())
    (huniform : uniform.validate = .ok ()) :
    UpToRepeat (fun id => .graph (.duplicateNode id)) (usedNodes nodes config)
      (BatchRun.Reached uniform (usedNodes nodes config).length (batches nodes config))
      (runBatched nodes config uniform) := by
  have hsettings : checkBatchSettings config uniform = .ok () :=
    andThen_eq_ok_iff.2 ⟨hconfig, huniform⟩
  have hprefix : ∀ items more : List (List String), items.flatten <+: (items ++ more).flatten :=
    fun items more => List.flatten_append ▸ List.prefix_append _ _
  rw [runBatched, hsettings, ← flatten_batches _ hconfig]
  exact UpToRepeat.foldlM List.flatten hprefix (fun _ batch _ h => h.next batch)
    (BatchRun.reached_start _ _) _

theorem nodup_of_reached {nodes : List String} (hconfig : config.validate = .ok ())
    (run : BatchRun α)
    (h : run.Reached uniform total (batches nodes config)) : (usedNodes nodes config).Nodup :=
  flatten_batches _ hconfig ▸ h.graph.nodup

end RunBatched

theorem nodup_syntheticNodes (count : ℕ) : (syntheticNodes count).Nodup := by
  refine List.Nodup.map (fun i j hij => ?_) List.nodup_range
  exact Nat.repr_inj.1 ((String.append_right_inj "Node ").1 hij)

/-- A run in batches succeeds exactly if no id stands twice among the first `maxNodes`, and fails at
the first repeated one of them otherwise. A run that succeeds holds these nodes, cut into
consecutive pieces of `batchSize` nodes of which only the last may be shorter, and lays out each
piece alone. -/
theorem runBatched_covers (nodes : List String) {config : BatchConfig} {uniform : UniformConfig α}
    (hconfig : config.validate = .ok ()) (huniform : uniform.validate = .ok ()) :
    let used := nodes.take config.maxNodes
    ((∃ run, runBatched nodes config uniform = .ok run) ↔ used.Nodup) ∧
    (∀ fault, runBatched nodes config uniform = .error fault ↔
      ∃ id, FirstRepeat used id ∧ fault = .graph (.duplicateNode id)) ∧
    (∃ pieces, (∀ other, ArePieces config.batchSize used other ↔ other = pieces) ∧
      pieces.length = used.length ⌈/⌉ config.batchSize ∧
      (config.maxNodes ≤ nodes.length → pieces.length = config.batchCount) ∧
      ∀ run, runBatched nodes config uniform = .ok run → run.Covers uniform used pieces) ∧
    ∀ count, ∃ run, runBatched (syntheticNodes count) config uniform = .ok run := by
  intro used
  have hsize : 0 < config.batchSize := BatchConfig.validate_eq_ok_iff.1 hconfig
  have hresult := fun nodes => runBatched_upToRepeat nodes hconfig huniform
  have hlength : (batches nodes config).length = used.length ⌈/⌉ config.batchSize :=
    length_chunks hsize used
  refine ⟨(hresult nodes).exists_ok_iff (nodup_of_reached hconfig),
    (hresult nodes).eq_error_iff (nodup_of_reached hconfig),
    ⟨batches nodes config, fun other => arePieces_iff hsize, hlength, fun hle => ?_,
      fun run hrun => ?_⟩, fun count => ?_⟩
  · rw [hlength, List.length_take_of_le hle, BatchConfig.batchCount_eq hconfig]
  · exact ((hresult nodes).good_of_ok hrun).covers (flatten_batches _ hconfig)
  · refine ((hresult (syntheticNodes count)).exists_ok_iff (nodup_of_reached hconfig)).2 ?_
    exact (nodup_syntheticNodes count).sublist (List.take_sublist _ _)

/-- A repeated id stops the run only if it stands within the first `maxNodes`. -/
theorem runBatched_covers_repeatedCart :
    let nodes := ["Cart", "Shop", "Cart"]
    let uniform := UniformConfig.standard (α := Float32)
    uniform.validate = .ok () ∧
    (∃ run, runBatched nodes ⟨2, 1⟩ uniform = .ok run ∧ run.graph.nodeIds = ["Cart", "Shop"]) ∧
    runBatched nodes ⟨3, 2⟩ uniform = .error (.graph (.duplicateNode "Cart")) := by
  intro nodes uniform
  have huniform : uniform.validate = .ok () := by decide
  have htwo : BatchConfig.validate ⟨2, 1⟩ = .ok () := rfl
  have hthree : BatchConfig.validate ⟨3, 2⟩ = .ok () := rfl
  have hcapped := runBatched_covers nodes htwo huniform
  have hwhole := runBatched_covers nodes hthree huniform
  obtain ⟨pieces, -, -, -, hcovers⟩ := hcapped.2.2.1
  obtain ⟨run, hrun⟩ := hcapped.1.2 (by decide)
  exact ⟨huniform, ⟨run, hrun, (hcovers run hrun).nodeIds⟩,
    (hwhole.2.1 _).2 ⟨"Cart", ⟨["Cart", "Shop"], [], rfl, by decide, by decide⟩, rfl⟩⟩

end RefAtlas.Layout
