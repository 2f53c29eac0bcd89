import RefAtlas.Pattern.Search
import RefAtlas.Reference.TypeText

/-! # The rules by which references are found

* `Rule`: the five kinds of places in which a unit names a type.
* `Rule.pattern`: the pattern of each kind of place; the piece under number 1 (and 2, for a
  method) holds the text that is read for names.
* `Rule.namesIn`: the names that one rule finds in a text.
-/

namespace RefAtlas.Reference
open RefAtlas.Text
set_option autoImplicit false

/-- A kind of place in which a unit names a type. -/
inductive Rule where
  | fields
  | methods
  | inheritance
  | instantiations
  | attributes
deriving DecidableEq, Repr

namespace Rule

def all : List Rule := [fields, methods, inheritance, instantiations, attributes]

def name : Rule → String
  | fields => "fields"
  | methods => "methods"
  | inheritance => "inheritance"
  | instantiations => "instantiations"
  | attributes => "attributes"

end Rule

/-! ## Patterns

Wherever a run is taken below, taking less of it would never lead to a match, since nothing that may
follow it starts with a character of its class. The one exception is white space in front of a list
of bases, which may itself be all of the list; that case has an alternative of its own. -/

section Patterns
open Pattern

/-- Generic arguments behind a name, as short as possible and free of the given characters. -/
def argumentsWithout (chars : List Char) : Pattern :=
  sequence [blanks, text "<", shortest fun c => !chars.contains c, text ">"]

def wordThenBlanks (ws : List String) : Pattern := andThen (words ws) blanks1

/-- A dotted name with generic arguments, array suffixes and a question mark, each if present. -/
def typePattern : Pattern :=
  sequence [
    dottedName,
    optional (argumentsWithout [';', '=', '(', ')', '\x7b', '\x7d']),
    star (sequence [blanks, text "[", run (fun c => isBlank c || c == ','), text "]"]),
    optional (text "?")]

/-- A field or property: an access modifier, other modifiers, the type, a name. -/
def fieldPattern : Pattern :=
  sequence [
    wordEdge,
    wordThenBlanks ["public", "private", "protected", "internal"],
    star (wordThenBlanks ["static", "readonly", "const", "volatile", "new", "override", "virtual",
      "abstract", "sealed", "extern", "unsafe", "required", "event"]),
    capture 1 typePattern,
    blanks1, identifier, blanks, oneOf [';', '=', ',', '\x7b']]

/-- A method: a modifier, other modifiers, the type of the result if there is one, a name, generic
parameters, parameters. -/
def methodPattern : Pattern :=
  sequence [
    wordEdge,
    wordThenBlanks ["public", "private", "protected", "internal", "static", "virtual", "override",
      "abstract", "async"],
    star (wordThenBlanks ["public", "private", "protected", "internal", "static", "virtual",
      "override", "abstract", "async", "sealed", "new", "extern", "unsafe"]),
    optional (andThen (capture 1 typePattern) blanks1),
    identifier, blanks,
    optional (sequence [text "<", run (outside ['>', '(']), text ">"]),
    blanks, text "(", capture 2 (run (· != ')')), text ")"]

/-- What ends a list of bases: the constraints, the body or a semicolon. -/
def basesEnd : Pattern :=
  orElse (sequence [wordEdge, text "where", wordEdge]) (oneOf ['\x7b', ';'])

/-- The bases of a type: what stands between the colon and the end of the list. White space alone
is a list of no bases. -/
def inheritancePattern : Pattern :=
  sequence [
    wordEdge,
    wordThenBlanks ["class", "struct", "interface", "record"],
    identifier,
    optional (sequence [blanks, text "<", run (outside ['>', '\x7b']), text ">"]),
    blanks, text ":",
    orElse
      (sequence [blanks, capture 1 (shortest1 (outside ['\x7b', ';'])), blanks, basesEnd])
      (andThen blanks1 basesEnd)]

/-- A value made with `new` and assigned to a name. -/
def instantiationPattern : Pattern :=
  sequence [
    wordEdge, identifier, blanks, text "=", blanks, text "new", blanks1,
    capture 1 (andThen dottedName (optional (argumentsWithout [';', '(', ')', '\x7b', '\x7d']))),
    blanks, oneOf ['(', '[', '\x7b']]

/-- A bracketed section at the start of a line. -/
def attributePattern : Pattern :=
  sequence [
    lineStart, blanks, text "[",
    capture 1 (run1 (outside ['[', ']', '\n'])),
    text "]"]

/-- A directive that imports a path (under number 2), or gives it an alias (under number 1). -/
def directivePattern : Pattern :=
  sequence [
    lineStart, blanks, optional (wordThenBlanks ["global"]), wordThenBlanks ["using"],
    optional (wordThenBlanks ["static"]),
    optional (sequence [capture 1 identifier, blanks, text "=", blanks]),
    capture 2 dottedName, blanks, text ";"]

end Patterns

def Rule.pattern : Rule → Pattern
  | .fields => fieldPattern
  | .methods => methodPattern
  | .inheritance => inheritancePattern
  | .instantiations => instantiationPattern
  | .attributes => attributePattern

/-! ## Reading the pieces found -/

def parameterNames (cs : List Char) : List String :=
  (splitTopLevel cs).flatMap fun parameter => typeNames (leadingType parameter)

def baseNames (cs : List Char) : List String := (splitTopLevel cs).flatMap typeNames

/-- An attribute without the target that may stand in front of it. -/
def withoutTarget (cs : List Char) : List Char :=
  match cs.dropWhile (· != ':') with
  | _ :: rest =>
    if rest.head? != some ':' && !(cs.takeWhile (· != ':')).contains '(' then trim rest else cs
  | [] => cs

def attributeEnding : List Char := "Attribute".toList

/-- The name of an attribute's class, with the ending that usages leave out. -/
def canonicalAttribute (cs : List Char) : List Char :=
  if attributeEnding.isSuffixOf cs then cs else cs ++ attributeEnding

/-- The names in one usage of an attribute; its arguments are not read. -/
def attributeUsageNames (cs : List Char) : List String :=
  let name := trim ((withoutTarget cs).takeWhile (· != '('))
  if name.isEmpty then [] else typeNames (canonicalAttribute name)

def attributeNames (cs : List Char) : List String :=
  (splitTopLevel cs).flatMap attributeUsageNames

def Rule.namesAt (rule : Rule) (place : Cursor) : List String :=
  let read (slot : Nat) (names : List Char → List String) : List String :=
    (place.piece? slot).elim [] names
  match rule with
  | .fields => read 1 typeNames
  | .methods => read 1 typeNames ++ read 2 parameterNames
  | .inheritance => read 1 baseNames
  | .instantiations => read 1 typeNames
  | .attributes => read 1 attributeNames

/-- The names that a rule finds in a text, in the order of the text. -/
def Rule.namesIn (rule : Rule) (cs : List Char) : List String :=
  (rule.pattern.findAll cs).flatMap rule.namesAt

end RefAtlas.Reference
