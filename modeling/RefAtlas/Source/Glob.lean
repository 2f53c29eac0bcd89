/-! # Globs

A `Glob` describes paths, which it reads as the bytes of their text.

* `Glob.Piece.rests`: what may be left of a text once a piece of a glob has been matched.
* `Glob.matches`: whether a glob describes a path.
-/

namespace RefAtlas.Source
set_option autoImplicit false

def slash : UInt8 := 47

def textBytes (s : String) : List UInt8 := s.toUTF8.toList

namespace Glob

inductive Piece where
  | byte (value : UInt8)
  /-- One byte that is no slash. -/
  | anyByte
  /-- Any number of bytes that are no slashes. -/
  | withinName
  /-- Any number of whole names at the start of a path. -/
  | leadingNames
  /-- A slash, or any number of whole names between two slashes. -/
  | betweenNames
  /-- A slash and everything behind it. -/
  | trailingNames
  /-- One byte in one of the ranges, or in none of them. -/
  | byteClass (negated : Bool) (ranges : List (UInt8 × UInt8))
  /-- One of several branches; without any branch it stands for nothing at all. -/
  | oneOf (branches : List (List Piece))

/-- What is left behind each slash of a text. -/
def behindSlashes : List UInt8 → List (List UInt8)
  | [] => []
  | b :: rest => if b == slash then rest :: behindSlashes rest else behindSlashes rest

/-- What is left behind any number of bytes that are no slashes. -/
def withinNameRests : List UInt8 → List (List UInt8)
  | [] => [[]]
  | b :: rest => (b :: rest) :: if b == slash then [] else withinNameRests rest

def allRests : List UInt8 → List (List UInt8)
  | [] => [[]]
  | b :: rest => (b :: rest) :: allRests rest

/-- What is left behind one byte for which a condition holds. -/
def behindByte (p : UInt8 → Bool) : List UInt8 → List (List UInt8)
  | [] => []
  | b :: rest => if p b then [rest] else []

mutual

/-- What may be left of a text behind a piece. -/
def Piece.rests : Piece → List UInt8 → List (List UInt8)
  | .byte value, s => behindByte (· == value) s
  | .anyByte, s => behindByte (· != slash) s
  | .withinName, s => withinNameRests s
  | .leadingNames, s => s :: behindSlashes s
  | .betweenNames, s => (behindByte (· == slash) s).flatMap fun r => r :: behindSlashes r
  | .trailingNames, s => (behindByte (· == slash) s).flatMap allRests
  | .byteClass negated ranges, s =>
    behindByte (fun b => (ranges.any fun r => r.1 ≤ b && b ≤ r.2) != negated) s
  | .oneOf [], s => [s]
  | .oneOf (branch :: branches), s => restsBehind branch s ++ branchRests branches s

def restsBehind : List Piece → List UInt8 → List (List UInt8)
  | [], s => [s]
  | p :: ps, s => ((p.rests s).flatMap fun r => restsBehind ps r).eraseDups

def branchRests : List (List Piece) → List UInt8 → List (List UInt8)
  | [], _ => []
  | branch :: branches, s => restsBehind branch s ++ branchRests branches s

end

end Glob

structure Glob where
  pieces : List Glob.Piece

/-- Whether a glob describes a path. Two stars alone describe every path. -/
def Glob.matches (g : Glob) (path : List UInt8) : Bool :=
  match g.pieces with
  | [.leadingNames] => true
  | pieces => (Glob.restsBehind pieces path).any List.isEmpty

end RefAtlas.Source
