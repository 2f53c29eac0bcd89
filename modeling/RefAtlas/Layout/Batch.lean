import RefAtlas.Chunk
import RefAtlas.Graph.Query
import RefAtlas.Layout.Uniform

/-! # Layout in batches

Nodes are added to one graph and laid out batch by batch, each batch on a uniform grid of its own.

* `usedNodes`, `batches`: the nodes of a run, and how they are cut.
* `BatchRun`: the number of these nodes, the graph, the layouts and the sizes of the batches.
* `BatchRun.next`: one more batch; `runBatched`: all of them.
* `Timing`: how long the batches of a run took, in nanoseconds, as a clock beside the run says.
-/

namespace RefAtlas.Layout
open RefAtlas.Graph RefAtlas.Number
set_option autoImplicit false

inductive BatchFault where
  | config (fault : ConfigFault)
  | graph (fault : GraphFault)
deriving DecidableEq

def syntheticNodes (count : Nat) : List String :=
  (List.range count).map fun i => "Node " ++ toString i

structure BatchRun (α : Type) where
  /-- The number of nodes of the whole run, known before its first batch. -/
  totalNodes : Nat
  graph : ReferenceGraph
  layouts : List (Arrangement α)
  batchSizes : List Nat

variable {α : Type}

namespace BatchRun

def start (totalNodes : Nat) : BatchRun α := ⟨totalNodes, .empty, [], []⟩

def addNodes (g : ReferenceGraph) (ids : List String) : Except GraphFault ReferenceGraph :=
  ids.foldlM (fun g id => (g.addNode (.ofId id)).map Prod.fst) g

def grow (run : BatchRun α) (batch : List String) : Except BatchFault (BatchRun α) :=
  match addNodes run.graph batch with
  | .ok graph => .ok { run with graph, batchSizes := run.batchSizes ++ [batch.length] }
  | .error fault => .error (.graph fault)

def layOut [Scalar α] (config : UniformConfig α) (run : BatchRun α) (batch : List String) :
    BatchRun α :=
  { run with layouts := run.layouts ++ [arrangeUniform batch .empty config] }

def next [Scalar α] (config : UniformConfig α) (run : BatchRun α) (batch : List String) :
    Except BatchFault (BatchRun α) :=
  (run.grow batch).map fun run => run.layOut config batch

end BatchRun

structure BatchTime where
  /-- From the start of the run to the start of the batch. -/
  startedAt : Nat
  creation : Nat
  layout : Nat

structure Timing where
  batches : List BatchTime
  total : Nat

variable [Scalar α]

def usedNodes (nodes : List String) (config : BatchConfig) : List String :=
  nodes.take config.maxNodes

def batches (nodes : List String) (config : BatchConfig) : List (List String) :=
  chunks config.batchSize (usedNodes nodes config)

def checkBatchSettings (config : BatchConfig) (uniform : UniformConfig α) :
    Except ConfigFault Unit := do
  config.validate
  uniform.validate

def runBatched (nodes : List String) (config : BatchConfig) (uniform : UniformConfig α) :
    Except BatchFault (BatchRun α) :=
  match checkBatchSettings config uniform with
  | .error fault => .error (.config fault)
  | .ok () =>
    (batches nodes config).foldlM (BatchRun.next uniform) (.start (usedNodes nodes config).length)

end RefAtlas.Layout
