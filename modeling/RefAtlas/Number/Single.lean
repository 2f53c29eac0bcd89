import RefAtlas.Number.Scalar
import RefAtlas.Number.Shortest

/-! # Coordinates of four bytes

The instance `Scalar Float32`, with which the program runs. Conversions from decimals round once,
by exact arithmetic on naturals.

* `Single.ofRatio`, `Single.ofDecimal`: the number nearest to a quotient or a decimal.
* `Single.ofDouble`: the number nearest to one of eight bytes.
* `Single.totalKey`: the place of a number in the order of all numbers, `-0` before `0` and no number
  behind infinity.
-/

namespace RefAtlas.Number
set_option autoImplicit false

namespace Single
open BinaryFormat

def ofBits (bits : Nat) : Float32 := Float32.ofBits (UInt32.ofNat bits)

def withSign (negative : Bool) (bits : Nat) : Float32 :=
  ofBits (if negative then single.signBit + bits else bits)

def ofRatio (negative : Bool) (num den : Nat) : Float32 :=
  withSign negative (single.encode num den)

def ofDecimal (d : Decimal) : Float32 := withSign d.negative (single.ofDecimal d)

def undefined : Float32 := ofBits (single.infinity + Nat.pow 2 (single.precision - 2))

def ofNumeral : Numeral → Float32
  | .finite d => ofDecimal d
  | .infinite negative => withSign negative single.infinity
  | .undefined => undefined

def ofDouble (negative : Bool) (bits : Nat) : Float32 :=
  if double.infinity < bits then undefined
  else if bits == double.infinity then withSign negative single.infinity
  else
    let (num, den) := double.ratio bits
    ofRatio negative num den

def ofNat (n : Nat) : Float32 := ofRatio false n 1

def totalKey (x : Float32) : Int :=
  let bits := x.toBits.toNat
  if bits < single.signBit then bits else (single.signBit : Int) - 1 - bits

/-- The length of a vector, computed with eight bytes and rounded once; it is infinite as soon as
one coordinate is. -/
def hypot (x y : Float32) : Float32 :=
  if x.isInf || y.isInf then withSign false single.infinity
  else (x.toFloat * x.toFloat + y.toFloat * y.toFloat).sqrt.toFloat32

/-- The number that a number in data stands for. An integer is rounded once; any other number is
rounded to eight bytes and then to four, and refused if it is too large for eight. -/
def ofLiteral? : Literal → Option Float32
  | .integer n => some (ofRatio (n < 0) n.natAbs 1)
  | .real (.finite d) =>
    let bits := double.ofDecimal d
    if bits == double.infinity then none else some (ofDouble d.negative bits)
  | .real n => some (ofNumeral n)

instance : Scalar Float32 where
  ofNat := ofNat
  ofNumeral := ofNumeral
  lt x y := x < y
  le x y := x ≤ y
  eq x y := x == y
  totalLe x y := totalKey x ≤ totalKey y
  largest := ofBits (single.infinity - 1)
  isBelowInfinity x := x < withSign false single.infinity
  abs := Float32.abs
  sqrt := Float32.sqrt
  hypot := hypot
  roundToNat x := x.round.toUInt64.toNat
  numeral tie x := single.numeral tie x.toBits.toNat
  ofLiteral? := ofLiteral?

end Single

end RefAtlas.Number
