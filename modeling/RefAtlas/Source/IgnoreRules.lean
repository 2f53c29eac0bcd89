import RefAtlas.Source.IgnoreRule
import RefAtlas.Source.RepositoryLink

/-! # The ignore rules of a tree

Ignore files stand in the directories whose entries they are about: `.ignore` everywhere,
`.gitignore` and `.git/info/exclude` only inside a repository, which is a directory with an entry
`.git` or `.jj`. Where `.git` is a link to a repository, the exclude file of that one counts.

* `IgnoreRules.ofFiles`: all rules of a tree and its repositories.
* `IgnoreRules.verdict?`: what they say about an entry. Rules of `.ignore` come before those of
  `.gitignore`, and those before the ones of `.git/info/exclude`; among rules of one kind the
  innermost directory that says something counts, and rules from outside the innermost repository
  do not reach into it.
-/

namespace RefAtlas.Source
set_option autoImplicit false

inductive IgnoreKind where
  | plain
  | repository
  /-- The file `.git/info/exclude`, or the one that stands for it behind a link. -/
  | exclude
deriving DecidableEq, Repr

/-- Where the file of a kind stands, from the directory that it is about. -/
def IgnoreKind.place : IgnoreKind → Place
  | plain => [".ignore"]
  | repository => [".gitignore"]
  | exclude => [".git", "info", "exclude"]

def IgnoreKind.all : List IgnoreKind := [plain, repository, exclude]

structure IgnoreFile where
  directory : Place
  kind : IgnoreKind
  /-- Its rules, in the order of its lines. -/
  rules : List IgnoreRule

structure IgnoreRules where
  files : List IgnoreFile
  repositories : List Place

namespace IgnoreRules

def fileAt? (place : Place) (bytes : ByteArray) : Option IgnoreFile :=
  (IgnoreKind.all.find? fun kind => kind.place.isSuffixOf place).map fun kind =>
    { directory := place.take (place.length - kind.place.length)
      kind
      rules := IgnoreRule.ofFile bytes }

def linkedFile? (fs : FileSystem) (place : Place) (bytes : ByteArray) : Option IgnoreFile :=
  ((RepositoryLink.at? place bytes).bind fun link => link.excludeFile? fs).map fun excluded =>
    { directory := place.dropLast, kind := .exclude, rules := IgnoreRule.ofFile excluded }

def fileOf? (fs : FileSystem) (place : Place) : Entry → Option IgnoreFile
  | .directory => none
  | .file bytes => fileAt? place bytes <|> linkedFile? fs place bytes

def repositoryMarks : List String := [".git", ".jj"]

/-- The repositories above a place whose mark stands on the way to it. -/
def repositoriesAbove (above : Place) : Place → List Place
  | [] => []
  | name :: rest =>
    (if repositoryMarks.contains name then [above] else []) ++
      repositoriesAbove (above ++ [name]) rest

def ofFiles (fs : FileSystem) : IgnoreRules where
  files := fs.tree.entries.filterMap fun e => fileOf? fs e.1 e.2
  repositories := (fs.tree.entries.flatMap fun e => repositoriesAbove [] e.1).eraseDups

def upwards (directory : Place) : List Place :=
  (List.range (directory.length + 1)).reverse.map fun n => directory.take n

/-- The directories up to the first one for which a condition holds, that one included; none if it
holds for none. -/
def upToFirst (p : Place → Bool) : List Place → List Place
  | [] => []
  | d :: rest =>
    if p d then [d]
    else match upToFirst p rest with
      | [] => []
      | reached => d :: reached

def verdictIn? (rules : IgnoreRules) (kind : IgnoreKind) (place : Place) (isDirectory : Bool)
    (directory : Place) : Option Verdict :=
  match rules.files.find? fun f => f.kind == kind && f.directory == directory with
  | none => none
  | some file =>
    let path := textBytes (Path.ofPlace (place.drop directory.length))
    IgnoreRule.verdictOf? file.rules path isDirectory

/-- What the rules say about the entry `name` of a directory. -/
def verdict? (rules : IgnoreRules) (directory : Place) (name : String) (isDirectory : Bool) :
    Option Verdict :=
  let place := directory ++ [name]
  let all := upwards directory
  let inside := upToFirst (fun d => rules.repositories.contains d) all
  (all.findSome? (rules.verdictIn? .plain place isDirectory)) <|>
    (inside.findSome? (rules.verdictIn? .repository place isDirectory)) <|>
    (inside.findSome? (rules.verdictIn? .exclude place isDirectory))

end IgnoreRules

end RefAtlas.Source
