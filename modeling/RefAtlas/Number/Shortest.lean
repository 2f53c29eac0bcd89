import RefAtlas.Number.Binary

/-! # The shortest decimal of a binary number

`shortest` finds the decimal with the fewest digits among those that round to a given binary
number, and among these the one nearest to it; a `Tie` decides between two equally near ones. The numbers that round to `m · 2 ^ e` form an
interval around it, to which its ends belong when `m` is even. If a decimal with `n` digits lies in
the interval, so does one of the two neighbours of the number itself among these decimals; so for
each `n` only those are tried.
-/

namespace RefAtlas.Number
set_option autoImplicit false

/-- The interval of the numbers that round to one number, over a common denominator. -/
structure Rounding where
  den : Nat
  low : Nat
  mid : Nat
  high : Nat
  closed : Bool

/-- The numbers that round to the positive number with the given bits. The gap below a power of two
is half the gap above it, unless it is the least power. -/
def BinaryFormat.rounding (f : BinaryFormat) (bits : Nat) : Rounding :=
  let (m, e) := f.decode bits
  let narrow := m == Nat.pow 2 (f.precision - 1) && f.minExponent < e
  let scale : Nat := if e < 2 then 1 else Nat.pow 2 (e - 2).natAbs
  { den := if e < 2 then Nat.pow 2 (2 - e).natAbs else 1
    low := (4 * m - (if narrow then 1 else 2)) * scale
    mid := 4 * m * scale
    high := (4 * m + 2) * scale
    closed := m % 2 == 0 }

namespace Rounding

def holds (r : Rounding) (digits : Nat) (exponent : Int) : Bool :=
  let x := if exponent < 0 then digits * r.den else digits * Nat.pow 10 exponent.natAbs * r.den
  let unit := if exponent < 0 then Nat.pow 10 exponent.natAbs else 1
  if r.closed then r.low * unit ≤ x && x ≤ r.high * unit
  else r.low * unit < x && x < r.high * unit

/-- The greatest `digits` with `digits · 10 ^ exponent` at most the number itself. -/
def floorDigits (r : Rounding) (exponent : Int) : Nat :=
  if exponent < 0 then r.mid * Nat.pow 10 exponent.natAbs / r.den
  else r.mid / (r.den * Nat.pow 10 exponent.natAbs)

/-- Whether the decimal above `digits` is nearer to the number than `digits` itself, or is chosen
because both are equally near. -/
def prefersUpper (r : Rounding) (tie : Tie) (digits : Nat) (exponent : Int) : Bool :=
  let twice := 2 * digits + 1
  let x := if exponent < 0 then twice * r.den else twice * Nat.pow 10 exponent.natAbs * r.den
  let y := if exponent < 0 then 2 * r.mid * Nat.pow 10 exponent.natAbs else 2 * r.mid
  x < y || (x == y && tie.prefersUpper digits)

/-- The decimal of the interval that is nearest to the number, on the grid of one power of ten. -/
def onGrid? (r : Rounding) (tie : Tie) (exponent : Int) : Option Nat :=
  let d := r.floorDigits exponent
  match r.holds d exponent, r.holds (d + 1) exponent with
  | true, true => some (if r.prefersUpper tie d exponent then d + 1 else d)
  | true, false => some d
  | false, true => some (d + 1)
  | false, false => none

/-- The first hit on the grids from `exponent` downwards, at most `limit` of them. -/
def search (r : Rounding) (tie : Tie) : (limit : Nat) → (exponent : Int) → Nat × Int
  | 0, exponent => (r.floorDigits exponent, exponent)
  | limit + 1, exponent =>
    match r.onGrid? tie exponent with
    | some digits => (digits, exponent)
    | none => r.search tie limit (exponent - 1)

end Rounding

/-- An exponent for which the number has at most one digit in front of that place of its decimal
writing. -/
def leadingExponent (num den : Nat) : Int :=
  if den ≤ num then (Nat.toDigits 10 (num / den)).length
  else 1 - ((Nat.toDigits 10 (den / num)).length : Int)

/-- The shortest decimal that rounds to the positive number with the given bits. -/
def BinaryFormat.shortest (f : BinaryFormat) (tie : Tie) (bits : Nat) : Decimal :=
  let r := f.rounding bits
  let (digits, exponent) := r.search tie 30 (leadingExponent r.mid r.den)
  Decimal.normalize ⟨false, digits, exponent⟩

def BinaryFormat.numeral (f : BinaryFormat) (tie : Tie) (bits : Nat) : Numeral :=
  let negative := f.signBit ≤ bits
  let size := bits % f.signBit
  if size == 0 then .finite ⟨negative, 0, 0⟩
  else if size < f.infinity then .finite { f.shortest tie size with negative }
  else if size == f.infinity then .infinite negative
  else .undefined

end RefAtlas.Number
