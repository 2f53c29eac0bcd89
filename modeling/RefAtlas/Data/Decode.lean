import RefAtlas.Data.Value
import RefAtlas.Text.Natural

/-! # Reading domain values out of data

* `DecodeFault`: the ways in which a value may not be what is wanted.
* `Value.asBool`, `Value.asText`, `Value.asNatural`, `Value.asScalar`, `Value.asList`,
  `Value.asOption`, `Value.asChoice`: values of one kind. Nothing is converted: a text is no number,
  a number with a point no integer.
* `Value.asFields`, `required`, `optional`: records. A list stands for the record whose fields it
  gives in the order of their declaration.
-/

namespace RefAtlas.Data
open RefAtlas.Number
set_option autoImplicit false

inductive DecodeFault where
  | unexpected
  | outOfRange
  | unknownName (name : String)
  | missing (field : String)
  | repeated (field : String)
  /-- The list has more items than the record has fields. -/
  | tooLong
deriving DecidableEq

structure Dialect where
  /-- Whether a list may be longer than the record for which it stands. -/
  allowsLonger : Bool
  isUnit : Value → Bool

/-- Data files: lists have no more items than the record has fields, and null says nothing. -/
def Dialect.json : Dialect where
  allowsLonger := false
  isUnit v := match v with
    | .null => true
    | _ => false

/-- Settings files: further items are not looked at, and an empty list or table says nothing. -/
def Dialect.settings : Dialect where
  allowsLonger := true
  isUnit v := match v with
    | .list [] => true
    | .record [] => true
    | _ => false

namespace Value

def asBool : Value → Except DecodeFault Bool
  | .bool b => .ok b
  | _ => .error .unexpected

def asText : Value → Except DecodeFault String
  | .text s => .ok s
  | _ => .error .unexpected

def asNatural : Value → Except DecodeFault Nat
  | .number (.integer (.ofNat n)) =>
    if n < Text.naturalLimit then .ok n else .error .outOfRange
  | .number (.integer (.negSucc _)) => .error .outOfRange
  | _ => .error .unexpected

def asScalar {α : Type} [Scalar α] : Value → Except DecodeFault α
  | .number n =>
    match Scalar.ofLiteral? n with
    | some x => .ok x
    | none => .error .outOfRange
  | _ => .error .unexpected

def asList {β : Type} (item : Value → Except DecodeFault β) : Value → Except DecodeFault (List β)
  | .list items => items.mapM item
  | _ => .error .unexpected

def asOption {β : Type} (some_ : Value → Except DecodeFault β) :
    Value → Except DecodeFault (Option β)
  | .null => .ok none
  | v => (some_ v).map some

/-- One of several names, alone or as the name of a field that says nothing else. -/
def asChoice {β : Type} (dialect : Dialect) (choices : List (String × β)) (v : Value) :
    Except DecodeFault β :=
  let find (name : String) : Except DecodeFault β :=
    match choices.find? fun c => c.1 == name with
    | some c => .ok c.2
    | none => .error (.unknownName name)
  match v with
  | .text name => find name
  | .record [(name, rest)] => if dialect.isUnit rest then find name else .error .unexpected
  | _ => .error .unexpected

def asEntries {β : Type} (entry : Value → Except DecodeFault β) :
    Value → Except DecodeFault (List (String × β))
  | .record fields => fields.mapM fun f => (entry f.2).map fun b => (f.1, b)
  | _ => .error .unexpected

def repeatedName? : List (String × Value) → Option String
  | [] => none
  | f :: rest => if rest.any fun g => g.1 == f.1 then some f.1 else repeatedName? rest

/-- The fields of a record with the given declared names, in their order. Other fields of the
record are left out. -/
def asFields (dialect : Dialect) (names : List String) :
    Value → Except DecodeFault (List (String × Value))
  | .record fields =>
    let known := fields.filter fun f => names.contains f.1
    match repeatedName? known with
    | some name => .error (.repeated name)
    | none => .ok known
  | .list items =>
    if names.length < items.length && !dialect.allowsLonger then .error .tooLong
    else .ok (names.zip items)
  | _ => .error .unexpected

end Value

def required {β : Type} (fields : List (String × Value)) (name : String)
    (decode : Value → Except DecodeFault β) : Except DecodeFault β :=
  match Value.lastField? fields name with
  | some v => decode v
  | none => .error (.missing name)

/-- A field that has a value of its own when it is not there. -/
def optional {β : Type} (fields : List (String × Value)) (name : String) (standard : β)
    (decode : Value → Except DecodeFault β) : Except DecodeFault β :=
  match Value.lastField? fields name with
  | some v => decode v
  | none => .ok standard

end RefAtlas.Data
