import RefAtlas.Chunk
import RefAtlas.Graph.Query
import RefAtlas.Reference.Extract
import RefAtlas.Source.SourceUnit
import RefAtlas.Text.Natural

/-! # The graph of a list of units

* `extractAll`: the references of every unit by its id. The units are read in chunks of as many as
  there are workers; `collect` puts the references together in the order in which units are finished.
* `ReferenceGraph.ofUnits`: a node for every distinct id, and an edge from a unit to every other
  unit that one of its references names.
* `workerCount`: how many workers a setting asks for.
-/

namespace RefAtlas.Graph
open RefAtlas.Reference RefAtlas.Source
set_option autoImplicit false

/-- The references of units by their ids, put together in the order in which units are finished. -/
def collect (references : SourceUnit → NameSet) (finished : List SourceUnit) :
    Dictionary NameSet :=
  Dictionary.ofList (finished.map fun u => (u.id, references u))

/-- The references of all units, read in chunks of as many as there are workers. -/
def extractAll (references : SourceUnit → NameSet) (workers : Nat) (units : List SourceUnit) :
    Dictionary NameSet :=
  collect references (chunks workers units).flatten

namespace ReferenceGraph

/-- Adds a node for a unit, unless there is one. -/
def addUnit (g : ReferenceGraph) (u : SourceUnit) : ReferenceGraph :=
  match g.addNode (.ofId u.id) with
  | .ok (g, _) => g
  | .error _ => g

/-- Adds the edge for a name that a unit refers to, if the name leads to another unit. -/
def addReference (g : ReferenceGraph) (id name : String) : ReferenceGraph :=
  let target := shortName name
  if target == id || !g.contains target then g
  else match g.addEdge id target with
    | .ok (g, _) => g
    | .error _ => g

def ofReferences (units : List SourceUnit) (references : Dictionary NameSet) : ReferenceGraph :=
  references.entries.foldl
    (fun g (id, names) => names.names.foldl (fun g name => g.addReference id name) g)
    (units.foldl addUnit empty)

def ofUnits (references : SourceUnit → NameSet) (workers : Nat) (units : List SourceUnit) :
    ReferenceGraph :=
  let units := distinctUnits units
  ofReferences units (extractAll references workers units)

end ReferenceGraph

/-! ## Workers -/

/-- How many workers a setting asks for: the standard number where it is absent, blank or no
number, and always between one and `max`. -/
def workerCount (setting : Option String) (standard max : Nat) : Nat :=
  let wanted := (setting.bind fun s => Text.readNatural? (Text.trim s.toList)).getD standard
  Nat.max 1 (Nat.min wanted (Nat.max max 1))

end RefAtlas.Graph
