import RefAtlas.Reference.Extract

/-! # Source units

A `SourceUnit` is one piece of source text under an id, held in memory or in a file.

* `ReadFault`: why a file cannot be read, and its wording.
* `SourceUnit.text`: the text of a unit, given what each file holds.
* `SourceUnit.references`: the references of a unit; one that cannot be read has none.
* `distinctUnits`: of several units with one id the first counts.
-/

namespace RefAtlas.Source
open RefAtlas.Reference
set_option autoImplicit false

inductive ReadFault where
  | notFound
  /-- A part of the path that should be a directory is a file. -/
  | notDirectory
  | isDirectory
  /-- The path or one of its names has more bytes than any file's. -/
  | nameTooLong
  /-- The path holds the character zero, which ends a path. -/
  | zeroCharacter
  | invalidText
deriving DecidableEq, Repr

def ReadFault.message : ReadFault → String
  | notFound => "No such file or directory (os error 2)"
  | notDirectory => "Not a directory (os error 20)"
  | isDirectory => "Is a directory (os error 21)"
  | nameTooLong => "File name too long (os error 36)"
  | zeroCharacter => "file name contained an unexpected NUL byte"
  | invalidText => "stream did not contain valid UTF-8"

inductive Content where
  | text (text : String)
  | file (path : String)
deriving DecidableEq

structure SourceUnit where
  id : String
  content : Content
deriving DecidableEq

structure UnreadableFile where
  path : String
  fault : ReadFault
deriving DecidableEq

def UnreadableFile.message (e : UnreadableFile) : String :=
  "Failed to read " ++ e.path ++ ": " ++ e.fault.message

abbrev FileTexts := String → Except ReadFault String

def SourceUnit.text (files : FileTexts) (u : SourceUnit) : Except UnreadableFile String :=
  match u.content with
  | .text text => .ok text
  | .file path =>
    match files path with
    | .ok text => .ok text
    | .error fault => .error ⟨path, fault⟩

/-- The references of a unit; none if it cannot be read. -/
def SourceUnit.references (files : FileTexts) (config : ExtractionConfig) (u : SourceUnit) :
    NameSet :=
  match u.text files with
  | .ok text => extract config text.toList
  | .error _ => .empty

/-! ## Distinct ids -/

/-- The members of a list with distinct keys, the first one of each key, leaving out the keys in
`seen`. -/
def firstOfEach {β : Type} (key : β → String) (seen : List String) : List β → List β
  | [] => []
  | x :: rest =>
    if seen.contains (key x) then firstOfEach key seen rest
    else x :: firstOfEach key (key x :: seen) rest

def distinctUnits (units : List SourceUnit) : List SourceUnit := firstOfEach SourceUnit.id [] units

end RefAtlas.Source
