import RefAtlas.Number.Scalar
import RefAtlas.Number.Style

/-! # Data values

`Value` is what a data file says: null, a Boolean, a number, a text, a list or a record. A record
keeps its fields in the order in which they are written, repeated ones included. What is written by
the rules of a format and still stands for nothing is a value of its own: it does no harm where
nobody asks for it.

* `Value.field?`: the value of a field; the last one of a repeated field counts.
* `Value.ofScalar`, `Value.ofNat`, `Value.ofOption`: values of numbers and of optional values.
-/

namespace RefAtlas.Data
open RefAtlas.Number
set_option autoImplicit false

inductive Value where
  | null
  | bool (value : Bool)
  | number (value : Literal)
  | text (value : String)
  | list (items : List Value)
  | record (fields : List (String × Value))
  /-- A text of which a part is no character, a record with such a name, or a number that is too
  large. -/
  | unreadable

namespace Value

instance : Inhabited Value := ⟨.null⟩

def fields : Value → List (String × Value)
  | .record fields => fields
  | _ => []

def lastField? (fields : List (String × Value)) (name : String) : Option Value :=
  (fields.reverse.find? fun f => f.1 == name).map Prod.snd

def field? (v : Value) (name : String) : Option Value := lastField? v.fields name

def ofNat (n : Nat) : Value := .number (.integer n)

def ofOption : Option Value → Value
  | some v => v
  | none => .null

def ofTexts (texts : List String) : Value := .list (texts.map .text)

/-- The value of a coordinate: null unless it is finite. -/
def ofScalar {α : Type} [Scalar α] (x : α) : Value :=
  match Scalar.numeral dataStyle.tie x with
  | .finite d => .number (.real (.finite d))
  | _ => .null

end Value

end RefAtlas.Data
