import RefAtlas.Text.Case.Table

/-! # Letter case

* `lowerAscii`: small forms of the ASCII capitals only, as keywords are compared.
* `lowercase`: small forms of every capital, as file extensions and directory names are compared.
  One capital has a small form of two characters, and the capital sigma has a form of its own at
  the end of a word.
-/

namespace RefAtlas.Text
set_option autoImplicit false

def lowerAscii (cs : List Char) : List Char := cs.map Char.toLower

def CaseRun.lower? : List CaseRun → Nat → Option Nat
  | [], _ => none
  | run :: rest, code =>
    if code < run.first then none
    else if code ≤ run.last && (code - run.first) % run.step == 0 then
      some (Int.toNat (code + run.shift))
    else lower? rest code

/-- Small form of a character, where that does not depend on its neighbours. -/
def lowerChar (c : Char) : List Char :=
  if c.toNat < 0x80 then [c.toLower]
  else if c.toNat == 0x130 then ['i', Char.ofNat 0x307]
  else match CaseRun.lower? lowerRuns c.toNat with
    | some n => [Char.ofNat n]
    | none => [c]

/-- Whether the first character that is not passed over has a case. -/
def meetsCased (cs : List Char) : Bool :=
  match cs.dropWhile fun c => CodeRange.covers caseIgnorableRanges c.toNat with
  | c :: _ => CodeRange.covers casedRanges c.toNat
  | [] => false

/-- The rest of a text made small; `before` holds the characters already read, nearest first. -/
def lowercaseAfter (before : List Char) : List Char → List Char
  | [] => []
  | c :: rest =>
    let small :=
      if c.toNat == 0x3a3 then
        [Char.ofNat (if meetsCased before && !meetsCased rest then 0x3c2 else 0x3c3)]
      else lowerChar c
    small ++ lowercaseAfter (c :: before) rest

def lowercase (cs : List Char) : List Char := lowercaseAfter [] cs

end RefAtlas.Text
