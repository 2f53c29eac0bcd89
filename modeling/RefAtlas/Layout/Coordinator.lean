import RefAtlas.Dictionary
import RefAtlas.Layout.Geometry

/-! # Waiting for sizes

A `Coordinator` collects the sizes of registered nodes. Once every node has been measured, the
receiver registered last is called, once, with the first measured size of every node.

* `Coordinator.report`, `Coordinator.onReady`, `Coordinator.request`: the three operations. Each
  answers, beside its own result, with the call that it makes, if it makes one.
-/

namespace RefAtlas.Layout
open RefAtlas.Number
set_option autoImplicit false

inductive Phase where
  | collecting
  /-- Every node has been measured, and nobody has been called. -/
  | ready
  | done
deriving DecidableEq, Repr

inductive ReportOutcome where
  | recorded
  /-- A side is not positive; the node stays as it was. -/
  | degenerate
  | alreadyReported
  | unknownNode
deriving DecidableEq, Repr

structure Coordinator (α κ : Type) where
  phase : Phase
  /-- The registered nodes with their sizes, if they have been measured. -/
  sizes : Dictionary (Option (Size α))
  reported : Nat
  receiver : Option κ
  performed : Bool

structure ReadyCall (α κ : Type) where
  receiver : κ
  sizes : Dictionary (Size α)

variable {α κ : Type}

namespace Coordinator

/-- Registers nodes. Without any, everything is measured at once. -/
def ofNodes (nodes : List String) : Coordinator α κ where
  phase := if nodes.isEmpty then .ready else .collecting
  sizes := Dictionary.ofList (nodes.map fun id => (id, none))
  reported := 0
  receiver := none
  performed := false

def nodeCount (c : Coordinator α κ) : Nat := c.sizes.size

def measured (c : Coordinator α κ) : Dictionary (Size α) :=
  Dictionary.ofList (c.sizes.entries.filterMap fun e => e.2.map fun size => (e.1, size))

/-- Calls the waiting receiver, if everything is measured and nobody has been called. -/
def takePass (c : Coordinator α κ) : Coordinator α κ × Option (ReadyCall α κ) :=
  if c.phase == .ready && !c.performed then
    match c.receiver with
    | some receiver =>
      ({ c with receiver := none, performed := true, phase := .done },
        some ⟨receiver, c.measured⟩)
    | none => (c, none)
  else (c, none)

def record (c : Coordinator α κ) (id : String) (size : Size α) : Coordinator α κ :=
  let c := { c with sizes := c.sizes.insert id (some size), reported := c.reported + 1 }
  if c.phase == .collecting && c.reported == c.nodeCount then { c with phase := .ready } else c

def report [Scalar α] (c : Coordinator α κ) (id : String) (size : Size α) :
    Coordinator α κ × ReportOutcome × Option (ReadyCall α κ) :=
  let outcome : ReportOutcome :=
    match c.sizes.get? id with
    | none => .unknownNode
    | some (some _) => .alreadyReported
    | some none => if size.isMeasured then .recorded else .degenerate
  let (c, call) := (if outcome == .recorded then c.record id size else c).takePass
  (c, outcome, call)

/-- Registers a receiver in place of the one that waits. After a call it is dropped. -/
def onReady (c : Coordinator α κ) (receiver : κ) :
    Coordinator α κ × Option (ReadyCall α κ) :=
  if c.performed then (c, none) else { c with receiver := some receiver }.takePass

def request (c : Coordinator α κ) : Coordinator α κ × Bool × Option (ReadyCall α κ) :=
  let (c, call) := c.takePass
  (c, call.isSome, call)

end Coordinator

end RefAtlas.Layout
