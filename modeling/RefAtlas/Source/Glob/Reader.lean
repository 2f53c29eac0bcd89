import RefAtlas.Source.Glob

/-! # Reading globs

`Glob.parse?` reads the text of a glob: stars, question marks, classes in brackets, branches in
braces, and characters that a backslash takes literally.

* A bracket that is never closed stands for itself, as do the brackets behind it.
* A brace without its partner, a range whose ends are the wrong way round and a backslash at the end
  make the text no glob.
-/

namespace RefAtlas.Source.Glob
set_option autoImplicit false

/-! ## Classes -/

inductive ClassReading where
  /-- A class and the text behind it. -/
  | closed (negated : Bool) (ranges : List (Char × Char)) (rest : List Char)
  /-- There is no closing bracket. -/
  | unclosed
  /-- The ends of a range are the wrong way round. -/
  | badRange

/-- Reads a class up to its closing bracket. `ranges` holds what has been read, the last range
first; `first` says that nothing has been read, `inRange` that a hyphen waits for the end of its
range. A closing bracket or a hyphen at the start stands for itself, as does a hyphen at the end. -/
def readRanges (negated first inRange : Bool) (ranges : List (Char × Char)) :
    List Char → ClassReading
  | [] => .unclosed
  | c :: cs =>
    if c == ']' && !first then
      .closed negated (if inRange then ('-', '-') :: ranges else ranges).reverse cs
    else if c == '-' && !first && !inRange then readRanges negated false true ranges cs
    else match inRange, ranges with
      | true, (low, _) :: before =>
        if c < low then .badRange else readRanges negated false false ((low, c) :: before) cs
      | _, ranges => readRanges negated false false ((c, c) :: ranges) cs

def readClass (cs : List Char) : ClassReading :=
  match cs with
  | '!' :: cs => readRanges true true false [] cs
  | '^' :: cs => readRanges true true false [] cs
  | cs => readRanges false true false [] cs

def charBytes (c : Char) : List UInt8 := textBytes (String.singleton c)

/-- The bytes of a range of characters: each byte of both ends, and all between the last byte of
the one and the first byte of the other. -/
def byteRanges (range : Char × Char) : List (UInt8 × UInt8) :=
  let single := fun b : UInt8 => (b, b)
  if range.1 == range.2 then (charBytes range.1).map single
  else
    let low := charBytes range.1
    let high := charBytes range.2
    low.dropLast.map single ++
      (match low.getLast?, high.head? with
        | some a, some b => [(a, b)]
        | _, _ => []) ++
      high.tail.map single

/-! ## Pieces -/

structure OpenBrace where
  /-- The pieces before the brace, the last one first. -/
  before : List Piece
  /-- The branches that are complete, the last one first. -/
  branches : List (List Piece)

structure Reading where
  /-- The pieces of the innermost branch, the last one first. -/
  pieces : List Piece
  /-- The open braces, the innermost one first. -/
  braces : List OpenBrace
  /-- The last character that was read. -/
  last : Option Char
  /-- Whether opening brackets stand for themselves. -/
  literalBrackets : Bool

namespace Reading

def start : Reading := ⟨[], [], none, false⟩

def push (r : Reading) (piece : Piece) (c : Char) : Reading :=
  { r with pieces := piece :: r.pieces, last := some c }

def pushLiteral (r : Reading) (c : Char) : Reading :=
  { r with pieces := ((charBytes c).map .byte).reverse ++ r.pieces, last := some c }

/-- Two stars that do not take the place of whole names are two single ones. -/
def pushStars (r : Reading) : Reading := (r.push .withinName '*').push .withinName '*'

/-- Lets whole names take the place of the last piece, a slash. Names that are already taken in at
the start or at the end of a path are not taken in twice. -/
def pushNames (r : Reading) (piece : Piece) (last : Char) : Reading :=
  match r.pieces with
  | .leadingNames :: _ => { r with last := some last }
  | .trailingNames :: _ => { r with last := some last }
  | pieces => { r with pieces := piece :: pieces.drop 1, last := some last }

def allowsNames (r : Reading) : Bool :=
  r.last == some '/' || (!r.braces.isEmpty && (r.last == some ',' || r.last == some '\x7b'))

def stars (r : Reading) : List Char → Reading × List Char
  | '*' :: cs =>
    if r.pieces.isEmpty then
      match cs with
      | [] => (r.push .leadingNames '*', [])
      | '/' :: cs => (r.push .leadingNames '/', cs)
      | cs => (r.pushStars, cs)
    else if !r.allowsNames then (r.pushStars, cs)
    else
      match cs with
      | [] => (r.pushNames .trailingNames '*', [])
      | '/' :: cs => (r.pushNames .betweenNames '/', cs)
      | c :: _ =>
        if (c == ',' || c == '\x7d') && !r.braces.isEmpty then
          (r.pushNames .trailingNames '*', cs)
        else (r.pushStars, cs)
  | cs => (r.push .withinName '*', cs)

def openBrace (r : Reading) : Reading :=
  { r with pieces := [], braces := ⟨r.pieces, []⟩ :: r.braces, last := some '\x7b' }

def nextBranch (r : Reading) : Reading :=
  match r.braces with
  | [] => r.pushLiteral ','
  | brace :: outer =>
    { r with
      pieces := []
      braces := { brace with branches := r.pieces.reverse :: brace.branches } :: outer
      last := some ',' }

def isVoid (pieces : List Piece) : Bool :=
  pieces.all fun
    | .oneOf [] => true
    | _ => false

/-- Closes the innermost brace. Branches that stand for nothing are left out. -/
def closeBrace? (r : Reading) : Option Reading :=
  match r.braces with
  | [] => none
  | brace :: outer =>
    let branches := (r.pieces.reverse :: brace.branches).reverse.filter fun b => !isVoid b
    some { r with pieces := .oneOf branches :: brace.before, braces := outer, last := some '\x7d' }

/-- Reads the rest of a glob; `limit` bounds the number of steps. -/
def finish? : (limit : Nat) → Reading → List Char → Option Glob
  | 0, _, _ => none
  | _ + 1, r, [] => if r.braces.isEmpty then some ⟨r.pieces.reverse⟩ else none
  | limit + 1, r, c :: cs =>
    match c with
    | '?' => finish? limit (r.push .anyByte c) cs
    | '*' =>
      let (r, cs) := r.stars cs
      finish? limit r cs
    | '[' =>
      if r.literalBrackets then finish? limit (r.pushLiteral c) cs
      else match readClass cs with
        | .closed negated ranges cs =>
          finish? limit (r.push (.byteClass negated (ranges.flatMap byteRanges)) ']') cs
        | .unclosed => finish? limit { r.pushLiteral c with literalBrackets := true } cs
        | .badRange => none
    | '\x7b' => finish? limit r.openBrace cs
    | '\x7d' =>
      match r.closeBrace? with
      | some r => finish? limit r cs
      | none => none
    | ',' => finish? limit r.nextBranch cs
    | '\\' =>
      match cs with
      | [] => none
      | c :: cs => finish? limit (r.pushLiteral c) cs
    | c => finish? limit (r.pushLiteral c) cs

end Reading

/-- Reads a glob. Every step takes a character, which bounds their number. -/
def parse? (cs : List Char) : Option Glob := Reading.start.finish? (cs.length + 1) cs

end RefAtlas.Source.Glob
