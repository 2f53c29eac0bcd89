import RefAtlas.Reference.Name

/-! # What a unit's directives say about names

An `AliasTable` records the names that a unit introduces for longer ones: an alias stands for its
target, and an imported path may be called by its last segment.

* `AliasTable.addAlias`, `AliasTable.addImport`: recording a directive. The latest alias of a name
  counts; a path is recorded once.
* `AliasTable.expand`: the longer name for a short one. Aliases come before imports, and among
  imports the earliest counts.
-/

namespace RefAtlas.Reference
set_option autoImplicit false

/-- The names that the directives of one unit introduce. -/
structure AliasTable where
  aliases : List (String × String)
  imports : List String

namespace AliasTable

def empty : AliasTable := ⟨[], []⟩

def addAlias (t : AliasTable) (short target : String) : AliasTable :=
  { t with aliases := (short, target) :: t.aliases }

def addImport (t : AliasTable) (path : String) : AliasTable :=
  if t.imports.contains path then t else { t with imports := t.imports ++ [path] }

def isEmpty (t : AliasTable) : Bool := t.aliases.isEmpty && t.imports.isEmpty

/-- The target of the latest alias with this name. -/
def aliasTarget? (t : AliasTable) (name : String) : Option String :=
  (t.aliases.find? fun entry => entry.1 == name).map Prod.snd

/-- The earliest imported path that is longer than the name and ends in it. -/
def importOf? (t : AliasTable) (name : String) : Option String :=
  t.imports.find? fun path => name.utf8ByteSize < path.utf8ByteSize && shortName path == name

/-- The longer name that a short one stands for, if the table knows one. -/
def expand (t : AliasTable) (name : String) : Option String :=
  match t.aliasTarget? name with
  | some target => some target
  | none => t.importOf? name

end AliasTable

end RefAtlas.Reference
