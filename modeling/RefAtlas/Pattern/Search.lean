import RefAtlas.Pattern.Basic

/-! # Searching a text for a pattern

* `Cursor`: a place in a text, with what has been remembered on the way to it.
* `placeBehindRun`: the place behind a run of a class; `rest_placeBehindRun` and its companions say
  that it takes the longest part at the start of the text and nothing else.
* `Pattern.exec`: the search behind one place. It offers the ends of the fitting pieces to what
  follows, in the pattern's order of preference, until one of them is accepted.
* `Pattern.findAll`: the pieces of a text that fit a pattern, from left to right, none of them
  overlapping the one before it. At each place the preferred piece is taken.
-/

namespace RefAtlas
set_option autoImplicit false

structure Remembered where
  slot : Nat
  source : List Char
  length : Nat

structure Cursor where
  before : Option Char
  offset : Nat
  rest : List Char
  remembered : List Remembered

namespace Cursor

def start (cs : List Char) : Cursor := ⟨none, 0, cs, []⟩

def piece? (c : Cursor) (slot : Nat) : Option (List Char) :=
  (c.remembered.find? (·.slot == slot)).map fun piece => piece.source.take piece.length

def stepIf? (class_ : Char → Bool) (c : Cursor) : Option Cursor :=
  match c.rest with
  | x :: rest => if class_ x then some { c with before := some x, offset := c.offset + 1, rest } else none
  | [] => none

def stepOver? : List Char → Cursor → Option Cursor
  | [], c => some c
  | x :: xs, c =>
    match stepIf? (· == x) c with
    | some c => stepOver? xs c
    | none => none

def remember (slot : Nat) (earlier c : Cursor) : Cursor :=
  { c with remembered := ⟨slot, earlier.rest, c.offset - earlier.offset⟩ :: c.remembered }

def atWordEdge (c : Cursor) : Bool :=
  c.before.any Text.isWord != c.rest.head?.any Text.isWord

def atLineStart (c : Cursor) : Bool :=
  c.before.all (· == '\n')

end Cursor

def placeBehindRun (class_ : Char → Bool) (remembered : List Remembered) :
    Option Char → Nat → List Char → Cursor
  | before, offset, [] => ⟨before, offset, [], remembered⟩
  | before, offset, x :: rest =>
    if class_ x then placeBehindRun class_ remembered (some x) (offset + 1) rest
    else ⟨before, offset, x :: rest, remembered⟩

section Run
variable (class_ : Char → Bool) (remembered : List Remembered)

theorem rest_placeBehindRun (before : Option Char) (offset : Nat) (cs : List Char) :
    (placeBehindRun class_ remembered before offset cs).rest = cs.dropWhile class_ := by
  induction cs generalizing before offset with
  | nil => rfl
  | cons x rest ih => by_cases h : class_ x = true <;> simp [placeBehindRun, h, ih]

theorem offset_placeBehindRun (before : Option Char) (offset : Nat) (cs : List Char) :
    (placeBehindRun class_ remembered before offset cs).offset =
      offset + (cs.takeWhile class_).length := by
  induction cs generalizing before offset with
  | nil => rfl
  | cons x rest ih =>
    by_cases h : class_ x = true
    · simp [placeBehindRun, h, ih]
      omega
    · simp [placeBehindRun, h]

theorem remembered_placeBehindRun (before : Option Char) (offset : Nat) (cs : List Char) :
    (placeBehindRun class_ remembered before offset cs).remembered = remembered := by
  induction cs generalizing before offset with
  | nil => rfl
  | cons x rest ih => by_cases h : class_ x = true <;> simp [placeBehindRun, h, ih]

end Run

/-- Offers the places behind 0, 1, 2, … characters of a class until one is accepted. -/
def offerWithin {β : Type} (class_ : Char → Bool) (remembered : List Remembered)
    (accept : Cursor → Option β) : Option Char → Nat → List Char → Option β
  | before, offset, [] => accept ⟨before, offset, [], remembered⟩
  | before, offset, x :: rest =>
    match accept ⟨before, offset, x :: rest, remembered⟩ with
    | some found => some found
    | none =>
      if class_ x then offerWithin class_ remembered accept (some x) (offset + 1) rest else none

/-- Repeats a step as often as possible, at most `limit` times, before the places reached are
offered. A step that does not move is not repeated. -/
def repeated {β : Type} (step : Cursor → (Cursor → Option β) → Option β)
    (accept : Cursor → Option β) : Nat → Cursor → Option β
  | 0, c => accept c
  | limit + 1, c =>
    match step c fun next => if next.offset == c.offset then none
        else repeated step accept limit next with
    | some found => some found
    | none => accept c

namespace Pattern

/-- The first accepted end of a piece that fits the pattern at `c`, in the pattern's order of
preference. Every repetition moves on, so `limit`, the length of the text, is never exceeded. -/
def exec {β : Type} (limit : Nat) : Pattern → Cursor → (Cursor → Option β) → Option β
  | .empty, c, accept => accept c
  | .one class_, c, accept =>
    match c.stepIf? class_ with
    | some next => accept next
    | none => none
  | .literal cs, c, accept =>
    match c.stepOver? cs with
    | some next => accept next
    | none => none
  | .run class_, c, accept =>
    accept (placeBehindRun class_ c.remembered c.before c.offset c.rest)
  | .shortest class_, c, accept =>
    offerWithin class_ c.remembered accept c.before c.offset c.rest
  | .andThen p q, c, accept => exec limit p c fun middle => exec limit q middle accept
  | .orElse p q, c, accept =>
    match exec limit p c accept with
    | some found => some found
    | none => exec limit q c accept
  | .star p, c, accept => repeated (exec limit p) accept limit c
  | .capture slot p, c, accept => exec limit p c fun last => accept (Cursor.remember slot c last)
  | .wordEdge, c, accept => if c.atWordEdge then accept c else none
  | .lineStart, c, accept => if c.atLineStart then accept c else none

def matchAt? (limit : Nat) (p : Pattern) (c : Cursor) : Option Cursor := p.exec limit c some

/-- The ends of the pieces found from one place on, skipping the places before `resume`. -/
def findFrom (limit : Nat) (p : Pattern) :
    Option Char → Nat → Nat → List Char → List Cursor
  | before, offset, resume, [] =>
    if offset < resume then []
    else (p.matchAt? limit ⟨before, offset, [], []⟩).toList
  | before, offset, resume, x :: rest =>
    if offset < resume then findFrom limit p (some x) (offset + 1) resume rest
    else match p.matchAt? limit ⟨before, offset, x :: rest, []⟩ with
      | some last => last :: findFrom limit p (some x) (offset + 1) last.offset rest
      | none => findFrom limit p (some x) (offset + 1) resume rest

def findAll (p : Pattern) (cs : List Char) : List Cursor :=
  p.findFrom cs.length none 0 0 cs

end Pattern

end RefAtlas
