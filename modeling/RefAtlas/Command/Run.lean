import RefAtlas.Command.Invocation
import RefAtlas.Command.Settings
import RefAtlas.Data.Json.Writer
import RefAtlas.Source.Scan

/-! # Running a command

* `RunFault`: why a command fails, and its wording.
* `projectGraph`: the graph of a project, whose nodes are grouped by directories and carry a few
  properties.
* `graphReport`, `layoutReport`: what the commands `graph` and `layout` print.
* `prepare`, `run`: what an invocation comes to; only batches are laid out in a step of their own, so
  that a clock may run beside it.
-/

namespace RefAtlas.Command
open RefAtlas.Data RefAtlas.Graph RefAtlas.Layout RefAtlas.Number RefAtlas.Reference RefAtlas.Source
set_option autoImplicit false

/-! ## Failures -/

inductive RunFault where
  | unreadableSettings (path : String)
  | badSettings (path : String)
  | unreadableSizes (path : String)
  | badSizes (path : String)
  | unresolved (path : String)
  | notDirectory (path : String)
  | extraction (fault : Reference.ConfigFault)
  | layout (fault : Layout.ConfigFault)
  | graph (fault : GraphFault)
  /-- Some of the given number of nodes have no measured size. -/
  | unmeasured (nodes : Nat)
deriving DecidableEq

def RunFault.message : RunFault → String
  | unreadableSettings path => "Failed to read config " ++ path
  | badSettings path => "Invalid config " ++ path
  | unreadableSizes path => "Failed to read sizes " ++ path
  | badSizes path => "Invalid sizes file " ++ path
  | unresolved path => "Failed to resolve " ++ path
  | notDirectory path => path ++ " is not a directory"
  | extraction fault => "Invalid configuration: " ++ fault.message
  | layout fault => "Invalid configuration: " ++ fault.message
  | graph fault => "Graph error: " ++ fault.message
  | unmeasured nodes =>
    "layout did not run: every node needs a positive width and height (" ++ toString nodes ++
      " nodes)"

variable {α : Type} [Scalar α]

/-! ## Settings and sizes -/

def loadSettings (fs : FileSystem) (path : Option String) : Except RunFault (Settings α) :=
  match path with
  | none => .ok .standard
  | some path =>
    match fs.text path with
    | .error _ => .error (.unreadableSettings path)
    | .ok text =>
      match Settings.ofText text with
      | some settings => .ok settings
      | none => .error (.badSettings path)

def loadSizes (fs : FileSystem) (path : Option String) :
    Except RunFault (Dictionary (Size α)) :=
  match path with
  | none => .ok .empty
  | some path =>
    match fs.text path with
    | .error _ => .error (.unreadableSizes path)
    | .ok text =>
      match sizesOfText text with
      | some sizes => .ok sizes
      | none => .error (.badSizes path)

def LayoutOptions.apply (o : LayoutOptions α) (settings : Settings α) : Settings α :=
  let layout := settings.layout
  { settings with
    layout :=
      { layout with
        force := { layout.force with seed := o.seed <|> layout.force.seed }
        grid := { layout.grid with padding := o.padding.getD layout.grid.padding } } }

def BatchOptions.apply (o : BatchOptions) (config : BatchConfig) : BatchConfig where
  maxNodes := o.nodes.getD config.maxNodes
  batchSize := o.batchSize.getD config.batchSize

/-- An extension as it is given in an option, where points may stand before it. -/
def extensionOf (text : String) : String := String.ofList (text.toList.dropWhile (· == '.'))

def SourceOptions.apply (o : SourceOptions) (config : ExtractionConfig) : ExtractionConfig :=
  if o.extensions.isEmpty then config else { config with extensions := o.extensions.map extensionOf }

def Settings.check (settings : Settings α) : Except RunFault Unit :=
  match settings.extraction.validate with
  | .error fault => .error (.extraction fault)
  | .ok () =>
    match settings.layout.validate with
    | .error fault => .error (.layout fault)
    | .ok () => .ok ()

/-! ## The graph of a project -/

def withSlashes (text : String) : String := text.map fun c => if c == '\\' then '/' else c

/-- The group of a unit: the directory in which its file stands, unless that is the root. -/
def groupOf (below : Place) : Option String :=
  if below.dropLast.isEmpty then none else some (withSlashes (Path.ofPlace below.dropLast))

def placesOf (found : List FoundUnit) : Dictionary Place :=
  Dictionary.ofList (found.map fun u => (u.id, u.below))

def propertiesOf (g : ReferenceGraph) (id : String) (below : Place) : List Property := [
  ⟨"path", withSlashes (Path.ofPlace below)⟩,
  ⟨"dependencies", toString (g.dependencies id).length⟩,
  ⟨"dependents", toString (g.dependents id).length⟩]

def putInGroup (g : ReferenceGraph) (id : String) (below : Place) :
    Except GraphFault ReferenceGraph :=
  match groupOf below with
  | some group => g.setGroup id group
  | none => .ok g

/-- Gives a node the group and the first properties of its place; without one it stays as it is. -/
def describe (maxProperties : Nat) (places : Dictionary Place) (g : ReferenceGraph) (id : String) :
    Except GraphFault ReferenceGraph :=
  match places.get? id with
  | none => .ok g
  | some below => do
    let g ← putInGroup g id below
    g.setProperties id (propertiesOf g id below) maxProperties

/-- The graph of the project in the directory at a place, before its nodes are described. -/
def plainGraphOf (fs : FileSystem) (config : ExtractionConfig) (jobs : Nat) (root : Place) :
    ReferenceGraph :=
  .ofUnits (SourceUnit.references fs.text config) jobs (units fs config (FileSystem.pathOf root))

def graphOf (fs : FileSystem) (settings : Settings α) (jobs : Nat) (root : Place) :
    Except RunFault ReferenceGraph :=
  let places := placesOf (foundUnits fs settings.extraction (FileSystem.pathOf root))
  let graph := plainGraphOf fs settings.extraction jobs root
  match graph.nodeIds.foldlM (describe settings.layout.maxProperties places) graph with
  | .ok graph => .ok graph
  | .error fault => .error (.graph fault)

def projectGraph (fs : FileSystem) (settings : Settings α) (o : SourceOptions) (path : String) :
    Except RunFault ReferenceGraph := do
  let settings := { settings with extraction := o.apply settings.extraction }
  settings.check
  match fs.place? path with
  | .error _ => .error (.unresolved path)
  | .ok root =>
    if fs.tree.isDirectory root then graphOf fs settings (Nat.max 1 (o.jobs.getD 1)) root
    else .error (.notDirectory (FileSystem.pathOf root))

/-! ## Reports -/

def graphReport (path : String) (g : ReferenceGraph) : Value :=
  .record ([("root", .text path), ("node_count", .ofNat g.nodeCount),
    ("edge_count", .ofNat g.edgeCount)] ++ g.adjacencyFields)

/-- Reports the size of every node of a plan. Nodes without a measured size have the standard one. -/
def reportSizes (sizes : Dictionary (Size α)) (session : Session α) : Session α :=
  session.plan.nodes.foldl
    (fun s id => (s.report id (sizeOf sizes session.config.uniform.defaultSize id)).1) session

def layoutReport (settings : Settings α) (o : LayoutOptions α) (sizes : Dictionary (Size α))
    (g : ReferenceGraph) : Except RunFault Value :=
  let plan := if o.connectedOnly then Plan.connectedOnly g else Plan.ofGraph g
  match Session.start plan (o.mode.getD .grouped) settings.layout with
  | .error fault => .error (.layout fault)
  | .ok session =>
    let session := reportSizes sizes session
    match session.result with
    | none => .error (.unmeasured plan.nodes.length)
    | some arrangement =>
      .ok (.record [("mode", .text session.mode.name), ("hidden", .ofTexts plan.hidden),
        ("state", arrangement.toValue)])

/-! ## Commands -/

structure BatchJob (α : Type) where
  nodes : List String
  config : BatchConfig
  uniform : UniformConfig α

/-- What a command prints, or what it has to do before. -/
inductive Answer (α : Type) where
  | print (value : Value)
  | batches (job : BatchJob α)

/-- Does what an invocation asks for, up to the layout of batches. -/
def prepare (fs : FileSystem) (invocation : Invocation α) : Except RunFault (Answer α) := do
  let settings ← loadSettings fs invocation.options.config
  match invocation.request with
  | .graph path o =>
    let g ← projectGraph fs settings o path
    return .print (graphReport path g)
  | .layout path o =>
    let settings := o.apply settings
    let sizes ← loadSizes fs o.sizes
    let g ← projectGraph fs settings o.source path
    return .print (← layoutReport settings o sizes g)
  | .batch o =>
    let config := o.apply settings.layout.batch
    return .batches ⟨syntheticNodes config.maxNodes, config, settings.layout.uniform⟩

def RunFault.ofBatch : BatchFault → RunFault
  | .config fault => .layout fault
  | .graph fault => .graph fault

/-- Does the rest of a command. Durations that nobody took are null. -/
def Answer.finish : Answer α → Except RunFault Value
  | .print value => .ok value
  | .batches job =>
    match runBatched job.nodes job.config job.uniform with
    | .ok run => .ok (run.report none)
    | .error fault => .error (.ofBatch fault)

def run (fs : FileSystem) (invocation : Invocation α) : Except RunFault Value := do
  (← prepare fs invocation).finish

def render (pretty : Bool) (value : Value) : String :=
  (if pretty then Json.pretty value else Json.compact value) ++ "\n"

def versionText : String := "refscope 0.1.0\n"

end RefAtlas.Command
