import RefAtlas.Data.Value

/-! # Tables of TOML while they are filled

A name is given once. A table comes from a header, from a header of a table inside it, or from a key
with several names, and only some of them may still be filled:

* A header gives a table that is not there yet, or one that only headers inside it have named.
* A key with several names fills tables that such keys have made.

`descend?` follows names from table to table; `define?`, `openTable?` and `openItem?` are the three
kinds of statements.
-/

namespace RefAtlas.Data.Toml
set_option autoImplicit false

inductive Origin where
  /-- It has a header, or is the whole of a file or of a value in braces. -/
  | header
  /-- The header of a table inside it names it. -/
  | implied
  /-- A key with several names names it. -/
  | dotted
deriving DecidableEq, Repr

inductive Item where
  | value (value : Value)
  /-- A table that may still be filled. -/
  | table (origin : Origin) (fields : List (String × Item))
  /-- A list of tables, of which the last may still be filled. -/
  | tables (before : List (List (String × Item))) (last : List (String × Item))

abbrev Fields := List (String × Item)

def Fields.find? (fields : Fields) (name : String) : Option Item :=
  (List.find? (fun f => f.1 == name) fields).map Prod.snd

def Fields.set (fields : Fields) (name : String) (item : Item) : Fields :=
  if fields.any fun f => f.1 == name then
    fields.map fun f => if f.1 == name then (name, item) else f
  else fields ++ [(name, item)]

mutual

def Item.toValue : Item → Value
  | .value value => value
  | .table _ fields => .record (fieldValues fields)
  | .tables before last => .list (tableValues before ++ [.record (fieldValues last)])

def fieldValues : List (String × Item) → List (String × Value)
  | [] => []
  | (name, item) :: rest => (name, item.toValue) :: fieldValues rest

def tableValues : List (List (String × Item)) → List Value
  | [] => []
  | fields :: rest => .record (fieldValues fields) :: tableValues rest

end

/-- Changes the table at the end of a path. `made` says how tables on the way come to be that are
not there yet. Keys with several names do not lead into a table with a header. -/
def descend? (made : Origin) (change : Origin → Fields → Option Fields) :
    List String → Origin → Fields → Option Fields
  | [], origin, fields => change origin fields
  | name :: path, _, fields =>
    match fields.find? name with
    | none =>
      (descend? made change path made []).map fun inner => fields.set name (.table made inner)
    | some (.value _) => none
    | some (.table origin inner) =>
      if made == .dotted && origin == .header then none
      else
        (descend? made change path origin inner).map fun inner =>
          fields.set name (.table origin inner)
    | some (.tables before last) =>
      (descend? made change path .header last).map fun last => fields.set name (.tables before last)

/-- Gives a name its value in a table, which is the one where the key stands or else was made by
such a key. -/
def addValue? (path : List String) (name : String) (value : Value) (origin : Origin)
    (fields : Fields) : Option Fields :=
  if (origin == .dotted) == path.isEmpty || (fields.find? name).isSome then none
  else some (fields.set name (.value value))

/-- A key with its value inside a table: `path` leads from the table to the name. -/
def defineIn? (path : List String) (name : String) (value : Value) (origin : Origin)
    (fields : Fields) : Option Fields :=
  descend? .dotted (addValue? path name value) path origin fields

def define? (table path : List String) (name : String) (value : Value) (root : Fields) :
    Option Fields :=
  descend? .implied (defineIn? path name value) table .header root

def openTable? (path : List String) (name : String) (root : Fields) : Option Fields :=
  let change (_ : Origin) (fields : Fields) : Option Fields :=
    match fields.find? name with
    | none => some (fields.set name (.table .header []))
    | some (.table .implied inner) => some (fields.set name (.table .header inner))
    | some _ => none
  descend? .implied change path .header root

def openItem? (path : List String) (name : String) (root : Fields) : Option Fields :=
  let change (_ : Origin) (fields : Fields) : Option Fields :=
    match fields.find? name with
    | none => some (fields.set name (.tables [] []))
    | some (.tables before last) => some (fields.set name (.tables (before ++ [last]) []))
    | some _ => none
  descend? .implied change path .header root

end RefAtlas.Data.Toml
