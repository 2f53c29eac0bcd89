import RefAtlas.Data.Toml.Number
import RefAtlas.Data.Toml.Table
import RefAtlas.Data.Toml.Text

/-! # Reading TOML

* `readValue`: a value, which may be a list in brackets or a table in braces, one inside the other to
  a bounded depth.
* `Statement`: the lines of a file; `Document` is what they have filled so far.
* `Toml.read?`: the record that a file writes.
-/

namespace RefAtlas.Data.Toml
set_option autoImplicit false

/-! ## Values -/

def splitKey? (names : List String) : Option (List String × String) :=
  names.getLast?.map fun name => (names.dropLast, name)

mutual

/-- Reads a value that stands inside `depth` lists and tables in braces; `limit` bounds the number of
steps. -/
def readValue : (limit depth : Nat) → List Char → Option (Value × List Char)
  | 0, _, _ => none
  | limit + 1, depth, cs =>
    match cs with
    | '"' :: cs => (readText '"' cs).map fun (s, cs) => (.text s, cs)
    | '\'' :: cs => (readText '\'' cs).map fun (s, cs) => (.text s, cs)
    | '[' :: cs =>
      if depthLimit ≤ depth + 1 then none
      else
        match skipLines cs with
        | ']' :: cs => some (.list [], cs)
        | cs => (readItems limit (depth + 1) cs).map fun (vs, cs) => (.list vs, cs)
    | '\x7b' :: cs =>
      if depthLimit ≤ depth + 1 then none
      else
        match skipBlank cs with
        | '\x7d' :: cs => some (.record [], cs)
        | cs =>
          (readPairs limit (depth + 1) [] cs).map fun (fields, cs) =>
            (.record (fieldValues fields), cs)
    | 't' :: 'r' :: 'u' :: 'e' :: cs => some (.bool true, cs)
    | 'f' :: 'a' :: 'l' :: 's' :: 'e' :: cs => some (.bool false, cs)
    | cs =>
      match readTime cs with
      | some time => some time
      | none => (readNumber cs).map fun (n, cs) => (.number n, cs)

/-- Reads the items of a list up to its closing bracket. A comma may stand behind the last item. -/
def readItems : (limit depth : Nat) → List Char → Option (List Value × List Char)
  | 0, _, _ => none
  | limit + 1, depth, cs =>
    match readValue limit depth cs with
    | none => none
    | some (v, cs) =>
      match skipLines cs with
      | ']' :: cs => some ([v], cs)
      | ',' :: cs =>
        match skipLines cs with
        | ']' :: cs => some ([v], cs)
        | cs => (readItems limit depth cs).map fun (vs, cs) => (v :: vs, cs)
      | _ => none

/-- Reads the keys and values of a table in braces up to its closing brace; `fields` holds what has
been read. -/
def readPairs : (limit depth : Nat) → (fields : Fields) → List Char → Option (Fields × List Char)
  | 0, _, _, _ => none
  | limit + 1, depth, fields, cs =>
    match readKey cs with
    | some (names, '=' :: cs) =>
      match splitKey? names, readValue limit depth (skipBlank cs) with
      | some (path, name), some (v, cs) =>
        match defineIn? path name v .header fields with
        | none => none
        | some fields =>
          match skipBlank cs with
          | '\x7d' :: cs => some (fields, cs)
          | ',' :: cs => readPairs limit depth fields cs
          | _ => none
      | _, _ => none
    | _ => none

end

/-! ## Statements -/

inductive Statement where
  | table (path : List String) (name : String)
  | item (path : List String) (name : String)
  | pair (path : List String) (name : String) (value : Value)

structure Document where
  current : List String
  root : Fields

def Document.add? (d : Document) : Statement → Option Document
  | .table path name => (openTable? path name d.root).map fun root => ⟨path ++ [name], root⟩
  | .item path name => (openItem? path name d.root).map fun root => ⟨path ++ [name], root⟩
  | .pair path name value =>
    (define? d.current path name value d.root).map fun root => { d with root }

def readHeader (make : List String → String → Statement) (closing : List Char) (cs : List Char) :
    Option (Statement × List Char) :=
  match readKey cs with
  | none => none
  | some (names, cs) =>
    if closing.isPrefixOf cs then
      (splitKey? names).map fun (path, name) => (make path name, cs.drop closing.length)
    else none

def readPair (cs : List Char) : Option (Statement × List Char) :=
  match readKey cs with
  | some (names, '=' :: cs) =>
    let cs := skipBlank cs
    match splitKey? names, readValue (2 * cs.length + 1) 0 cs with
    | some (path, name), some (v, cs) => some (.pair path name v, cs)
    | _, _ => none
  | _ => none

def readStatement (cs : List Char) : Option (Statement × List Char) :=
  match cs with
  | '[' :: '[' :: cs => readHeader .item [']', ']'] cs
  | '[' :: cs => readHeader .table [']'] cs
  | cs => readPair cs

/-- Reads the rest of a file; `limit` bounds the number of lines. -/
def readLines : (limit : Nat) → Document → List Char → Option Document
  | 0, _, _ => none
  | limit + 1, d, cs =>
    match skipBlank cs with
    | [] => some d
    | '#' :: cs =>
      match endLine? ('#' :: cs) with
      | some cs => readLines limit d cs
      | none => none
    | cs =>
      match newline? cs with
      | some cs => readLines limit d cs
      | none =>
        match readStatement cs with
        | none => none
        | some (statement, cs) =>
          match d.add? statement, endLine? cs with
          | some d, some cs => readLines limit d cs
          | _, _ => none

/-- Reads a file. A mark of the byte order may stand at its start. Every line takes a character,
which bounds their number. -/
def read? (s : String) : Option Value :=
  let cs := match s.toList with
    | '\ufeff' :: cs => cs
    | cs => cs
  (readLines (cs.length + 1) ⟨[], []⟩ cs).map fun d => .record (fieldValues d.root)

end RefAtlas.Data.Toml
