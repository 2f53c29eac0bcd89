import RefAtlas.Entries
import RefAtlas.Source.Path
import RefAtlas.Source.SourceUnit

/-! # Files and directories

* `FileTree`: the files below a root with their bytes, in the order of their places, and the
  directories that are to be there even if they are empty.
* `FileTree.entry?`: what stands at a place. A directory is there as soon as something stands below
  it.
* `FileSystem`: a tree in which relative paths start in a working directory; `FileSystem.place?`
  follows a path, `FileSystem.opened?` does so where its length matters, `FileSystem.bytes?` and
  `FileSystem.text` read the file at its end.
-/

namespace RefAtlas.Source
set_option autoImplicit false

inductive Entry where
  | file (bytes : ByteArray)
  | directory

def Entry.isDirectory : Entry → Bool
  | directory => true
  | file _ => false

structure FileTree where
  entries : List (Place × Entry)
  sorted : entries.Pairwise fun a b => a.1 < b.1

namespace FileTree

def empty : FileTree := ⟨[], List.Pairwise.nil⟩

instance : Inhabited FileTree := ⟨empty⟩

def insert (t : FileTree) (place : Place) (entry : Entry) : FileTree :=
  ⟨insertEntry place entry t.entries, pairwise_insertEntry place entry t.sorted⟩

/-- The tree of a list of entries; the last one at a place counts. -/
def ofList (l : List (Place × Entry)) : FileTree :=
  l.foldl (fun t e => t.insert e.1 e.2) empty

def hasBelow (t : FileTree) (place : Place) : Bool :=
  t.entries.any fun e => place.isPrefixOf e.1 && place != e.1

def entry? (t : FileTree) (place : Place) : Option Entry :=
  match t.entries.find? fun e => e.1 == place with
  | some e => some e.2
  | none => if place.isEmpty || t.hasBelow place then some .directory else none

def isDirectory (t : FileTree) (place : Place) : Bool := (t.entry? place).any Entry.isDirectory

def bytes? (t : FileTree) (place : Place) : Option ByteArray :=
  match t.entry? place with
  | some (.file bytes) => some bytes
  | _ => none

/-- Follows the pieces of a path, starting at `place`. Every piece, an empty one too, asks that a
directory has been reached; two points lead upwards and stay at the root. A name that is too long is
refused when it is looked up, so faults in front of it come first. -/
def follow (t : FileTree) (place : Place) : List String → Except ReadFault Place
  | [] => .ok place
  | piece :: rest =>
    if !t.isDirectory place then .error .notDirectory
    else if piece == "" || piece == "." then t.follow place rest
    else if piece == ".." then t.follow place.dropLast rest
    else if Path.maxNameSize < piece.utf8ByteSize then .error .nameTooLong
    else if (t.entry? (place ++ [piece])).isNone then .error .notFound
    else t.follow (place ++ [piece]) rest

end FileTree

structure FileSystem where
  tree : FileTree
  workingDirectory : Place

namespace FileSystem

def place? (fs : FileSystem) (path : String) : Except ReadFault Place :=
  if Path.holdsZero path then .error .zeroCharacter
  else if path.isEmpty then .error .notFound
  else fs.tree.follow (if Path.isAbsolute path then [] else fs.workingDirectory) (Path.pieces path)

/-- The place that is opened at the end of a path. To open it, the path itself must not be too long,
whatever it leads to. -/
def opened? (fs : FileSystem) (path : String) : Except ReadFault Place :=
  if Path.maxSize < path.utf8ByteSize && !Path.holdsZero path then .error .nameTooLong
  else fs.place? path

def bytes? (fs : FileSystem) (path : String) : Option ByteArray :=
  (fs.opened? path).toOption.bind fs.tree.bytes?

def pathOf (place : Place) : String := "/" ++ Path.ofPlace place

def text (fs : FileSystem) : FileTexts := fun path =>
  match fs.opened? path with
  | .error fault => .error fault
  | .ok place =>
    match fs.tree.bytes? place with
    | none => .error .isDirectory
    | some bytes =>
      match String.fromUTF8? bytes with
      | some text => .ok text
      | none => .error .invalidText

end FileSystem

end RefAtlas.Source
