import RefAtlas.Source.IgnoreRules
import RefAtlas.Text.Case

/-! # Scanning a project

* `isScope`: the names of directories that never hold sources of a project.
* `isSkipped`: the entries that a scan does not look at; `isReached`: the files to which it comes.
* `scan`: the source files below a root, in the order of their places.
* `foundUnits`, `units`: their units. Of several files with one stem the first counts.
-/

namespace RefAtlas.Source
open RefAtlas.Reference
set_option autoImplicit false

def scopeNames : List String :=
  [".git", ".hg", ".svn", ".idea", ".vscode", ".vs", "bin", "obj", "build", "builds", "target",
    "library", "temp", "logs", "packages", "node_modules"]

def smallName (name : String) : String := String.ofList (Text.lowercase name.toList)

def isScope (name : String) : Bool := scopeNames.contains (smallName name)

def isHidden (name : String) : Bool := name.toList.head? == some '.'

/-- Whether a scan leaves out the entry `name` of a directory. A rule that keeps an entry shows it
although its name hides it. -/
def isSkipped (rules : IgnoreRules) (directory : Place) (name : String) (isDirectory : Bool) :
    Bool :=
  match rules.verdict? directory name isDirectory with
  | some .ignored => true
  | some .kept => isScope name
  | none => isHidden name || isScope name

/-- Whether a scan that has come to a directory goes on to a file below it. -/
def isReached (rules : IgnoreRules) (directory : Place) : Place → Bool
  | [] => true
  | [name] => !isSkipped rules directory name false
  | name :: rest => !isSkipped rules directory name true && isReached rules (directory ++ [name]) rest

def hasSourceExtension (config : ExtractionConfig) (path : String) : Bool :=
  match Path.extension? path with
  | some ext => config.extensions.any fun e => smallName e == smallName ext
  | none => false

/-- The source file below `root` that an entry of the tree is, as its place below the root; none if
it is not found. The root itself may be a file. -/
def foundBelow? (rules : IgnoreRules) (config : ExtractionConfig) (rootPath : String) (root : Place)
    (place : Place) (entry : Entry) : Option Place :=
  match entry with
  | .directory => none
  | .file bytes =>
    let below := place.drop root.length
    if root.isPrefixOf place && isReached rules root below &&
      hasSourceExtension config (Path.join rootPath below) &&
      bytes.size ≤ config.maxFileSize then some below
    else none

/-- The places below the end of a path where source files stand. -/
def scan (fs : FileSystem) (config : ExtractionConfig) (rootPath : String) : List Place :=
  match fs.opened? rootPath with
  | .error _ => []
  | .ok root =>
    let rules := IgnoreRules.ofFiles fs
    fs.tree.entries.filterMap fun e => foundBelow? rules config rootPath root e.1 e.2

/-! ## Units -/

/-- A unit whose text is in a file that a scan found. -/
structure FoundUnit where
  /-- The id: the name of the file without its extension. -/
  id : String
  below : Place
deriving DecidableEq

def foundUnit? (rootPath : String) (below : Place) : Option FoundUnit :=
  (Path.stem? (Path.join rootPath below)).map fun id => { id, below }

/-- The units found below the end of a path. Of several files with one stem the first counts. -/
def foundUnits (fs : FileSystem) (config : ExtractionConfig) (rootPath : String) :
    List FoundUnit :=
  firstOfEach FoundUnit.id [] ((scan fs config rootPath).filterMap (foundUnit? rootPath))

def FoundUnit.toUnit (rootPath : String) (u : FoundUnit) : SourceUnit :=
  { id := u.id, content := .file (Path.join rootPath u.below) }

def units (fs : FileSystem) (config : ExtractionConfig) (rootPath : String) : List SourceUnit :=
  (foundUnits fs config rootPath).map (FoundUnit.toUnit rootPath)

end RefAtlas.Source
