import RefAtlas.Layout.Coordinator
import RefAtlas.Layout.Plan

/-! # Sessions

A `Session` lays a plan out as soon as every node has a measured size, and draws the result once.

* `Session.start`: a session of a plan; it is refused if the settings make no sense.
* `Session.report`: reports the size of a node.
-/

namespace RefAtlas.Layout
open RefAtlas.Number
set_option autoImplicit false

structure Session (α : Type) where
  plan : Plan
  mode : Mode
  config : LayoutConfig α
  coordinator : Coordinator α Unit
  drawn : List (Placement α)
  result : Option (Arrangement α)

variable {α : Type} [Scalar α]

namespace Session

/-- Lays the plan out and draws it, if the coordinator made its call. -/
def perform (s : Session α) (call : Option (ReadyCall α Unit)) : Session α :=
  match call with
  | none => s
  | some call =>
    match s.plan.arrange s.mode call.sizes s.config with
    | .ok arrangement =>
      { s with drawn := s.drawn ++ arrangement.placements, result := some arrangement }
    | .error _ => s

/-- Starts a session. A plan without nodes is laid out at once. -/
def start (plan : Plan) (mode : Mode) (config : LayoutConfig α) :
    Except ConfigFault (Session α) := do
  config.validate
  let (coordinator, call) := (Coordinator.ofNodes plan.nodes).onReady ()
  return perform ⟨plan, mode, config, coordinator, [], none⟩ call

def report (s : Session α) (id : String) (size : Size α) : Session α × ReportOutcome :=
  let (coordinator, outcome, call) := s.coordinator.report id size
  (perform { s with coordinator } call, outcome)

def isDone (s : Session α) : Bool := s.coordinator.phase == .done

end Session

end RefAtlas.Layout
