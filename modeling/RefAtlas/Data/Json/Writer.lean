import RefAtlas.Data.Value
import RefAtlas.Number.Style

/-! # Writing JSON

* `Json.compact`: a value on one line without white space.
* `Json.pretty`: a value over several lines, two spaces a level, empty lists and records closed at
  once.
-/

namespace RefAtlas.Data.Json
open RefAtlas.Number
set_option autoImplicit false

def escapedChar (c : Char) : List Char :=
  match c with
  | '"' => ['\\', '"']
  | '\\' => ['\\', '\\']
  | '\n' => ['\\', 'n']
  | '\r' => ['\\', 'r']
  | '\t' => ['\\', 't']
  | '\x08' => ['\\', 'b']
  | '\x0c' => ['\\', 'f']
  | c =>
    if c.toNat < 0x20 then
      let digits := Nat.toDigits 16 c.toNat
      ['\\', 'u'] ++ List.replicate (4 - digits.length) '0' ++ digits
    else [c]

def textChars (s : String) : List Char := '"' :: s.toList.flatMap escapedChar ++ ['"']

/-- A number; there is no writing for one that is not finite. -/
def literalChars : Literal → List Char
  | .integer n => integerChars n
  | .real (.finite d) => d.render dataStyle
  | .real _ => "null".toList

structure Layout where
  /-- What stands before an item or a closing bracket, by level. -/
  lineBreak : Nat → List Char
  /-- What stands between the name of a field and its value. -/
  colon : List Char

def oneLine : Layout := ⟨fun _ => [], [':']⟩

def indented : Layout := ⟨fun level => '\n' :: List.replicate (2 * level) ' ', [':', ' ']⟩

mutual

def valueChars (layout : Layout) (level : Nat) : Value → List Char
  | .null | .unreadable => "null".toList
  | .bool true => "true".toList
  | .bool false => "false".toList
  | .number n => literalChars n
  | .text s => textChars s
  | .list [] => ['[', ']']
  | .list (v :: vs) =>
    '[' :: layout.lineBreak (level + 1) ++ valueChars layout (level + 1) v ++
      itemsChars layout (level + 1) vs ++ layout.lineBreak level ++ [']']
  | .record [] => ['\x7b', '\x7d']
  | .record ((name, v) :: fs) =>
    '\x7b' :: layout.lineBreak (level + 1) ++ textChars name ++ layout.colon ++
      valueChars layout (level + 1) v ++ fieldsChars layout (level + 1) fs ++
      layout.lineBreak level ++ ['\x7d']

def itemsChars (layout : Layout) (level : Nat) : List Value → List Char
  | [] => []
  | v :: vs =>
    ',' :: layout.lineBreak level ++ valueChars layout level v ++ itemsChars layout level vs

def fieldsChars (layout : Layout) (level : Nat) : List (String × Value) → List Char
  | [] => []
  | (name, v) :: fs =>
    ',' :: layout.lineBreak level ++ textChars name ++ layout.colon ++
      valueChars layout level v ++ fieldsChars layout level fs

end

def compact (v : Value) : String := String.ofList (valueChars oneLine 0 v)

def pretty (v : Value) : String := String.ofList (valueChars indented 0 v)

end RefAtlas.Data.Json
