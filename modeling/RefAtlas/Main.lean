import RefAtlas.Command.Run
import RefAtlas.Number.Single

/-! # The program

Loads the files that a command may look at, runs the command and prints what comes of it. Nothing is
decided here: the files go into a `FileSystem`, and `Command.prepare` does the rest. Batches are
timed by a clock, which `BatchRun.grow` and `BatchRun.layOut` know nothing about.
-/

namespace RefAtlas
open Command Layout Reference Source
set_option autoImplicit false

def usageText : String :=
  "Usage: refscope [OPTIONS] <COMMAND>\n\n" ++
  "Commands:\n" ++
  "  graph <PATH>   Print the reference graph of a directory\n" ++
  "  layout <PATH>  Print the layout of that graph\n" ++
  "  batch          Lay out synthetic nodes in batches\n\n" ++
  "Options: --config <FILE> --pretty --verbose --quiet --version --help\n" ++
  "graph, layout: --extension <EXT> --jobs <N>\n" ++
  "layout: --mode <MODE> --sizes <FILE> --connected-only --seed <N> --padding <LENGTH>\n" ++
  "batch: --nodes <N> --batch-size <N>\n"

/-! ## Loading files -/

abbrev Loaded := List (Place × Entry)

def bytesOf : Entry → Nat
  | .directory => 0
  | .file bytes => bytes.size

/-- The tree of loaded entries. At a place that was loaded twice, what was loaded with bytes counts:
entries are inserted from the last place to the first, each in front of the others. -/
def treeOf (loaded : Loaded) : FileTree :=
  .ofList (loaded.mergeSort fun a b =>
    decide (b.1 < a.1) || (a.1 == b.1 && decide (bytesOf a.2 ≤ bytesOf b.2)))

/-- Loads what stands at a place; a file with its bytes only if they are wanted. -/
def loadEntry (withBytes : Bool) (place : Place) : IO Loaded := do
  let path := FileSystem.pathOf place
  try
    if ← (← IO.FS.realPath path).isDir then return [(place, .directory)]
    return [(place, .file (← if withBytes then IO.FS.readBinFile path else pure .empty))]
  catch _ => return []

def loadAlong (place : Place) : List String → IO Loaded
  | [] => return []
  | piece :: rest => do
    if piece == "" || piece == "." then loadAlong place rest
    else if piece == ".." then loadAlong place.dropLast rest
    else
      let next := place ++ [piece]
      return (← loadEntry rest.isEmpty next) ++ (← loadAlong next rest)

def loadPath (workingDirectory : Place) (path : String) : IO Loaded :=
  loadAlong (if Path.isAbsolute path then [] else workingDirectory) (Path.pieces path)

def loadLinked (workingDirectory : Place) (link : RepositoryLink) : IO Loaded := do
  let loaded ← loadPath workingDirectory link.sharedNameFile
  match link.excludePath? ⟨treeOf loaded, workingDirectory⟩ with
  | some path => return (← loadPath workingDirectory path) ++ loaded
  | none => return loaded

def loadIgnoreFiles (workingDirectory directory : Place) : IO Loaded := do
  let mut loaded : Loaded := []
  for name in IgnoreRules.repositoryMarks do
    loaded := (← loadEntry true (directory ++ [name])) ++ loaded
  for kind in IgnoreKind.all do
    loaded := (← loadEntry true (directory ++ kind.place)) ++ loaded
  for entry in loaded do
    if let (place, .file bytes) := entry then
      if let some link := RepositoryLink.at? place bytes then
        loaded := (← loadLinked workingDirectory link) ++ loaded
  return loaded

/-- Loads what a scan may look at below a directory. What belongs to tools is left out, and only
sources are loaded with their bytes. -/
partial def loadBelow (config : ExtractionConfig) (workingDirectory directory : Place) :
    IO Loaded := do
  let mut loaded ← loadIgnoreFiles workingDirectory directory
  let entries ← try (← IO.FS.realPath (FileSystem.pathOf directory)).readDir catch _ => pure #[]
  for entry in entries do
    let place := directory ++ [entry.fileName]
    if !isScope entry.fileName then
      let found ← loadEntry (hasSourceExtension config entry.fileName) place
      loaded := found ++ loaded
      if found.any fun e => e.2.isDirectory then
        loaded := (← loadBelow config workingDirectory place) ++ loaded
  return loaded

def loadProject (config : ExtractionConfig) (workingDirectory root : Place) : IO Loaded := do
  let mut loaded ← loadBelow config workingDirectory root
  for directory in (IgnoreRules.upwards root).drop 1 do
    loaded := (← loadIgnoreFiles workingDirectory directory) ++ loaded
  return loaded

def projectOf? : Request Float32 → Option (String × SourceOptions)
  | .graph path o => some (path, o)
  | .layout path o => some (path, o.source)
  | .batch _ => none

def inputsOf (invocation : Invocation Float32) : List String :=
  invocation.options.config.toList ++
    (match invocation.request with
      | .layout _ o => o.sizes.toList
      | _ => [])

def loadFiles (invocation : Invocation Float32) : IO FileSystem := do
  let workingDirectory := Path.names (toString (← IO.currentDir))
  let mut loaded : Loaded := [(workingDirectory, .directory)]
  for path in inputsOf invocation do
    loaded := (← loadPath workingDirectory path) ++ loaded
  match projectOf? invocation.request with
  | none => return ⟨treeOf loaded, workingDirectory⟩
  | some (path, o) =>
    loaded := (← loadPath workingDirectory path) ++ loaded
    let fs : FileSystem := ⟨treeOf loaded, workingDirectory⟩
    match loadSettings (α := Float32) fs invocation.options.config, fs.place? path with
    | .ok settings, .ok root =>
      loaded := (← loadProject (o.apply settings.extraction) workingDirectory root) ++ loaded
      return ⟨treeOf loaded, workingDirectory⟩
    | _, _ => return fs

/-! ## Timed batches -/

def runTimed (job : BatchJob Float32) : IO (Except BatchFault (BatchRun Float32 × Timing)) := do
  match checkBatchSettings job.config job.uniform with
  | .error fault => return .error (.config fault)
  | .ok () =>
    let start ← IO.monoNanosNow
    let mut run : BatchRun Float32 := .start (usedNodes job.nodes job.config).length
    let mut times : Array BatchTime := #[]
    for batch in batches job.nodes job.config do
      let before ← IO.monoNanosNow
      match run.grow batch with
      | .error fault => return .error fault
      | .ok grown =>
        let between ← IO.monoNanosNow
        run := grown.layOut job.uniform batch
        let after ← IO.monoNanosNow
        times := times.push ⟨before - start, between - before, after - between⟩
    return .ok (run, ⟨times.toList, (← IO.monoNanosNow) - start⟩)

def finishTimed (answer : Answer Float32) : IO (Except RunFault Data.Value) := do
  match answer with
  | .print value => return .ok value
  | .batches job =>
    match ← runTimed job with
    | .ok (run, timing) => return .ok (run.report (some timing))
    | .error fault => return .error (.ofBatch fault)

def fail (fault : RunFault) : IO UInt32 := do
  IO.eprintln ("Error: " ++ fault.message)
  return 1

def runInvocation (invocation : Invocation Float32) : IO UInt32 := do
  match prepare (← loadFiles invocation) invocation with
  | .error fault => fail fault
  | .ok answer =>
    match ← finishTimed answer with
    | .error fault => fail fault
    | .ok value =>
      IO.print (render invocation.options.pretty value)
      return 0

end RefAtlas

def main (arguments : List String) : IO UInt32 := do
  match RefAtlas.Command.Invocation.parse arguments with
  | .ok invocation => RefAtlas.runInvocation invocation
  | .error .version =>
    IO.print RefAtlas.Command.versionText
    return 0
  | .error .help =>
    IO.print RefAtlas.usageText
    return 0
  | .error .misused =>
    IO.eprint RefAtlas.usageText
    return 2
