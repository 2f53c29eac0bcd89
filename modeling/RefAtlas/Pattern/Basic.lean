import RefAtlas.Text.Blank
import RefAtlas.Text.Word

/-! # Text patterns

A `Pattern` describes pieces of text. Where several pieces fit, the pattern itself says which one
is meant: the left alternative before the right one, more repetitions before fewer ones unless it
is marked as shortest-first. A run of a class is never cut short.

* `Pattern`: the patterns.
* `Pattern.anyOf`, `Pattern.sequence`, `Pattern.words`, `Pattern.blanks`: the combinations from
  which the rules of the library are written.
-/

namespace RefAtlas
set_option autoImplicit false

/-- A pattern for pieces of text, with an order of preference among the pieces that fit. -/
inductive Pattern where
  | empty
  /-- One character of a class. -/
  | one (class_ : Char → Bool)
  | literal (text : List Char)
  /-- All characters of a class that follow. -/
  | run (class_ : Char → Bool)
  /-- As few characters of a class as possible. -/
  | shortest (class_ : Char → Bool)
  /-- One pattern after the other. -/
  | andThen (first second : Pattern)
  /-- The first pattern or else the second one. -/
  | orElse (first second : Pattern)
  /-- As many repetitions of a pattern as possible. -/
  | star (body : Pattern)
  /-- A pattern whose piece is remembered under a number. -/
  | capture (slot : Nat) (body : Pattern)
  /-- The empty piece between a word character and one that is none. -/
  | wordEdge
  /-- The empty piece at the start of a line. -/
  | lineStart

namespace Pattern

/-- The first of the patterns that leads to a match. -/
def anyOf : List Pattern → Pattern
  | [] => .one fun _ => false
  | [p] => p
  | p :: ps => .orElse p (anyOf ps)

def sequence : List Pattern → Pattern
  | [] => .empty
  | [p] => p
  | p :: ps => .andThen p (sequence ps)

def optional (p : Pattern) : Pattern := .orElse p .empty

def text (s : String) : Pattern := .literal s.toList

def words (ws : List String) : Pattern := anyOf (ws.map text)

def oneOf (chars : List Char) : Pattern := .one fun c => chars.contains c

def outside (chars : List Char) (c : Char) : Bool := !chars.contains c

def run1 (class_ : Char → Bool) : Pattern := .andThen (.one class_) (.run class_)

def shortest1 (class_ : Char → Bool) : Pattern := .andThen (.one class_) (.shortest class_)

def blanks : Pattern := .run Text.isBlank

def blanks1 : Pattern := run1 Text.isBlank

def identifier : Pattern := .andThen (.one Text.isNameStart) (.run Text.isWord)

/-- A name whose parts may be joined by points. -/
def dottedName : Pattern :=
  .andThen (.one Text.isNameStart) (.run fun c => Text.isWord c || c == '.')

end Pattern

end RefAtlas
