/-! # Paths

A path is a text whose names are separated by slashes.

* `Path.maxNameSize`, `Path.maxSize`: how long names and paths may be.
* `Path.fileName?`: the last name of a path.
* `Path.stem?`, `Path.extension?`: its parts before and behind the last point.
* `Path.append`, `Path.join`: the path that leads on from another one.
-/

namespace RefAtlas.Source
set_option autoImplicit false

/-- The names that lead from a directory to something below it, the outermost one first. Places are
ordered name by name. -/
abbrev Place := List String

namespace Path

def pieces (path : String) : List String := (path.toList.splitOn '/').map String.ofList

/-- The names of a path. Empty pieces and single points do not lead anywhere. -/
def names (path : String) : List String := (pieces path).filter fun name => name != "" && name != "."

def isAbsolute (path : String) : Bool := path.toList.head? == some '/'

def maxNameSize : Nat := 255

/-- The greatest number of bytes of a path along which a file is opened. -/
def maxSize : Nat := 4095

def holdsZero (path : String) : Bool := path.toList.contains '\x00'

/-- The last name of a path, unless that is a step upwards. -/
def fileName? (path : String) : Option String := (names path).getLast?.filter fun name => name != ".."

/-- A name without its extension, and the extension. A point at the start of a name does not begin
an extension. -/
def splitExtension (name : String) : String × Option String :=
  let reversed := name.toList.reverse
  let ending := reversed.takeWhile (· != '.')
  match reversed.dropWhile (· != '.') with
  | '.' :: c :: before =>
    (String.ofList (c :: before).reverse, some (String.ofList ending.reverse))
  | _ => (name, none)

def stem? (path : String) : Option String := (fileName? path).map fun name => (splitExtension name).1

def extension? (path : String) : Option String :=
  (fileName? path).bind fun name => (splitExtension name).2

def ofPlace (place : Place) : String := "/".intercalate place

/-- The path that leads from the end of a path on along a second one, which is relative. -/
def append (path more : String) : String :=
  if path.isEmpty || path.toList.getLast? == some '/' then path ++ more else path ++ "/" ++ more

def join (path : String) (below : Place) : String :=
  if below.isEmpty then path else append path (ofPlace below)

end Path

end RefAtlas.Source
