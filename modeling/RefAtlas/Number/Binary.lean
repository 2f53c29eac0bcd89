import RefAtlas.Number.Decimal

/-! # Binary floating-point formats

* `BinaryFormat`: the precision and the exponents of a format; `single` and `double` are the two
  that occur.
* `BinaryFormat.encode`: the bits of the number nearest to a quotient, ties to the even significand.
* `BinaryFormat.decode`: the significand and the power of two that bits stand for.
-/

namespace RefAtlas.Number
set_option autoImplicit false

/-- The quotient rounded to the nearest natural, a tie to the even one. -/
def roundQuotient (num den : Nat) : Nat :=
  let q := num / den
  let r := num % den
  if 2 * r < den then q
  else if den < 2 * r then q + 1
  else q + q % 2

/-- A format whose numbers are `significand · 2 ^ exponent`. -/
structure BinaryFormat where
  precision : Nat
  minExponent : Int
  exponentBits : Nat

namespace BinaryFormat

def single : BinaryFormat := ⟨24, -149, 8⟩

def double : BinaryFormat := ⟨53, -1074, 11⟩

/-- The bits of infinity; greater ones stand for no number. -/
def infinity (f : BinaryFormat) : Nat := (Nat.pow 2 f.exponentBits - 1) * Nat.pow 2 (f.precision - 1)

def signBit (f : BinaryFormat) : Nat := Nat.pow 2 (f.precision - 1 + f.exponentBits)

def scaledRound (num den : Nat) (e : Int) : Nat :=
  if e < 0 then roundQuotient (num * Nat.pow 2 e.natAbs) den
  else roundQuotient num (den * Nat.pow 2 e.natAbs)

def belowPower (num den : Nat) (e : Int) : Bool :=
  if e < 0 then num * Nat.pow 2 e.natAbs < den else num < den * Nat.pow 2 e.natAbs

/-- The exponent with which the significand of `num / den` is full, if the format has it, and the
least exponent otherwise. -/
def exponentOf (f : BinaryFormat) (num den : Nat) : Int :=
  let e : Int := (Nat.log2 num : Int) - Nat.log2 den - f.precision + 1
  let e := if belowPower num den (e + f.precision - 1) then e - 1 else e
  max e f.minExponent

/-- The bits of the number nearest to `num / den`; a significand that rounds up to the next power
of two carries into the exponent by itself. -/
def encode (f : BinaryFormat) (num den : Nat) : Nat :=
  if num == 0 then 0
  else
    let e := f.exponentOf num den
    let bits := (e - f.minExponent).toNat * Nat.pow 2 (f.precision - 1) + scaledRound num den e
    min bits f.infinity

def decode (f : BinaryFormat) (bits : Nat) : Nat × Int :=
  let unit := Nat.pow 2 (f.precision - 1)
  let step := bits / unit
  if step == 0 then (bits, f.minExponent)
  else (bits % unit + unit, f.minExponent + (step - 1))

def ratio (f : BinaryFormat) (bits : Nat) : Nat × Nat :=
  let (m, e) := f.decode bits
  if e < 0 then (m, Nat.pow 2 e.natAbs) else (m * Nat.pow 2 e.natAbs, 1)

/-- The bits of the size of a decimal. Powers of ten far beyond the format are not written out. -/
def ofDecimal (f : BinaryFormat) (d : Decimal) : Nat :=
  if d.digits == 0 || d.pointPosition < -400 then 0
  else if 400 < d.pointPosition then f.infinity
  else f.encode d.ratio.1 d.ratio.2

end BinaryFormat

end RefAtlas.Number
