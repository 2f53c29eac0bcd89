import RefAtlas.Source.FileTree
import RefAtlas.Text.Line

/-! # Links to repositories

A directory whose repository is kept elsewhere has a file `.git` with a link in its first line. The
directory to which the link leads names, in the first line of its file `commondir`, the directory of
what several repositories share, and there the file `info/exclude` stands.

* `RepositoryLink.ofFile?`, `RepositoryLink.at?`: read a link.
* `RepositoryLink.sharedPath?`: the path of the shared directory.
* `RepositoryLink.excludeFile?`: the bytes of its exclude file.
-/

namespace RefAtlas.Source
set_option autoImplicit false

structure RepositoryLink where
  /-- The path of that directory. A relative one starts in the working directory of the program. -/
  path : String
deriving DecidableEq, Repr

namespace RepositoryLink

def opening : List Char := "gitdir: ".toList

def firstLine? (bytes : ByteArray) : Option (List Char) :=
  (Text.lines bytes).head?.join.map String.toList

def ofFile? (bytes : ByteArray) : Option RepositoryLink :=
  (firstLine? bytes).bind fun line =>
    if opening.isPrefixOf line then some ⟨String.ofList (line.drop opening.length)⟩ else none

/-- The link that the file at a place holds; only a file `.git` holds one. -/
def at? (place : Place) (bytes : ByteArray) : Option RepositoryLink :=
  if place.getLast? == some ".git" then ofFile? bytes else none

def sharedNameFile (link : RepositoryLink) : String := Path.append link.path "commondir"

/-- The path of the shared directory. A name that starts with a point leads on from the directory of
the repository, any other one is a path of its own. -/
def sharedPath? (link : RepositoryLink) (fs : FileSystem) : Option String := do
  let line ← firstLine? (← fs.bytes? link.sharedNameFile)
  let name := String.ofList line
  return if line.head? == some '.' then Path.append link.path name else name

def excludePath? (link : RepositoryLink) (fs : FileSystem) : Option String :=
  (link.sharedPath? fs).map fun shared => Path.append shared "info/exclude"

def excludeFile? (link : RepositoryLink) (fs : FileSystem) : Option ByteArray :=
  (link.excludePath? fs).bind fs.bytes?

end RepositoryLink

end RefAtlas.Source
