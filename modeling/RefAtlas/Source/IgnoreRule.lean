import RefAtlas.Source.Glob.Reader
import RefAtlas.Text.Blank
import RefAtlas.Text.Line

/-! # Ignore rules

An `IgnoreRule` is a line of an ignore file: a glob for the paths below the directory of the file,
and what is to happen to the entries that it describes.

* `IgnoreRule.parse?`: reads a line. Comments and blank lines are no rules.
* `IgnoreRule.ofFile`: the rules of a file.
* `IgnoreRule.verdict`: what a list of rules says about an entry. The last rule counts.
-/

namespace RefAtlas.Source
set_option autoImplicit false

inductive Verdict where
  | ignored
  /-- It is looked at, even if its name hides it. -/
  | kept
deriving DecidableEq, Repr

structure IgnoreRule where
  glob : Glob
  verdict : Verdict
  directoriesOnly : Bool

namespace IgnoreRule

/-- A line without the white space at its end, unless that is escaped. -/
def trimLine (line : List Char) : List Char :=
  if [' ', '\\'].isPrefixOf line.reverse then line else Text.trimEnd line

/-- The glob of a rule, behind its marks. A glob without any slash may describe names at any depth,
and one that ends in two stars describes only what lies inside. -/
def fullGlob (anchored : Bool) (cs : List Char) : List Char :=
  let anywhere := !anchored && !cs.contains '/' && cs != ['*', '*']
  let cs := if anywhere then ['*', '*', '/'] ++ cs else cs
  if ['*', '*', '/'].isPrefixOf cs.reverse then cs ++ ['/', '*'] else cs

/-- Reads the glob of a rule, whose marks at the start have been read. A slash at the end means
directories only, and takes a backslash before it along. -/
def parseGlob? (verdict : Verdict) (anchored : Bool) (cs : List Char) : Option IgnoreRule :=
  let directoriesOnly := cs.getLast? == some '/'
  let cs := if directoriesOnly then cs.dropLast else cs
  let cs := if directoriesOnly && cs.getLast? == some '\\' then cs.dropLast else cs
  (Glob.parse? (fullGlob anchored cs)).map fun glob => { glob, verdict, directoriesOnly }

/-- Reads the rest of a line whose first slash, if it stands in front, ties the glob to the
directory of the file. -/
def parseAnchored? (verdict : Verdict) (cs : List Char) : Option IgnoreRule :=
  match cs with
  | '/' :: cs => parseGlob? verdict true cs
  | cs => parseGlob? verdict false cs

def parse? (line : List Char) : Option IgnoreRule :=
  match trimLine line with
  | [] => none
  | '#' :: _ => none
  | '\\' :: '!' :: cs => parseGlob? .ignored false ('!' :: cs)
  | '\\' :: '#' :: cs => parseGlob? .ignored false ('#' :: cs)
  | '!' :: cs => parseAnchored? .kept cs
  | cs => parseAnchored? .ignored cs

/-- The lines of a file up to the first one that is no text, without marks of the byte order at the
start. -/
def linesOf (bytes : ByteArray) : List (List Char) :=
  let texts := ((Text.lines bytes).takeWhile Option.isSome).reduceOption
  match texts.map String.toList with
  | first :: rest => first.dropWhile (· == '\ufeff') :: rest
  | [] => []

def ofFile (bytes : ByteArray) : List IgnoreRule := (linesOf bytes).filterMap parse?

/-- Whether a rule means an entry, whose path is given from the directory of the rule. -/
def means (rule : IgnoreRule) (path : List UInt8) (isDirectory : Bool) : Bool :=
  (isDirectory || !rule.directoriesOnly) && rule.glob.matches path

def verdictOf? (rules : List IgnoreRule) (path : List UInt8) (isDirectory : Bool) :
    Option Verdict :=
  (rules.reverse.find? fun rule => rule.means path isDirectory).map verdict

end IgnoreRule

end RefAtlas.Source
