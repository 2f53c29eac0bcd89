import RefAtlas.Number.Binary

/-! # Decimals scaled step by step

The numbers of data files are not rounded once. The digits are rounded to a number of eight bytes,
and this one is multiplied or divided by a power of ten, which is such a number too; every step
rounds. A number whose power of ten is beyond eight bytes takes more than one step on the way down,
and is too large on the way up.

* `BinaryFormat.product`, `BinaryFormat.quotient`: the product and the quotient of two sizes.
* `BinaryFormat.toDecimal`: the decimal that a binary number is.
* `Decimal.scaled?`: the number that the steps reach.
-/

namespace RefAtlas.Number
set_option autoImplicit false

namespace BinaryFormat

def product (f : BinaryFormat) (x y : Nat) : Nat :=
  let (a, b) := f.ratio x
  let (c, d) := f.ratio y
  f.encode (a * c) (b * d)

def quotient (f : BinaryFormat) (x y : Nat) : Nat :=
  let (a, b) := f.ratio x
  let (c, d) := f.ratio y
  f.encode (a * d) (b * c)

/-- The decimal that is exactly the number of a sign and a size. A half is five tenths, so that
every binary number is a decimal. -/
def toDecimal (f : BinaryFormat) (negative : Bool) (bits : Nat) : Decimal :=
  let (m, e) := f.decode bits
  if e < 0 then ⟨negative, m * Nat.pow 5 e.natAbs, e⟩ else ⟨negative, m * Nat.pow 2 e.natAbs, 0⟩

end BinaryFormat

namespace Decimal
open BinaryFormat

/-- The greatest power of ten that eight bytes can hold, and so the greatest step. -/
def greatestStep : Nat := 308

def stepBits (power : Nat) : Nat := double.encode (Nat.pow 10 power) 1

def scaleDown (bits power : Nat) : Nat :=
  if bits == 0 then 0
  else if power ≤ greatestStep then double.quotient bits (stepBits power)
  else scaleDown (double.quotient bits (stepBits greatestStep)) (power - greatestStep)
termination_by power
decreasing_by simp only [greatestStep] at *; omega

def scaleUp? (bits power : Nat) : Option Nat :=
  if bits == 0 then some 0
  else if greatestStep < power then none
  else (some (double.product bits (stepBits power))).filter (· != double.infinity)

/-- The number of eight bytes that is reached from the digits, unless it is too large. -/
def scaled? (d : Decimal) : Option Decimal :=
  let bits := double.encode d.digits 1
  let size? := if d.exponent < 0 then some (scaleDown bits d.exponent.natAbs)
    else scaleUp? bits d.exponent.natAbs
  size?.map (double.toDecimal d.negative)

end Decimal

end RefAtlas.Number
