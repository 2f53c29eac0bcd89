/-! # Decimal numerals

A `Decimal` is a number as it is written: a sign, digits and a power of ten. A `Numeral` is what a
floating-point number may be written as. A `Literal` is a number in data, where an integer is told
apart from other numbers. A `Tie` says which of two decimals is written for the number in the middle
between them.

* `Decimal.normalize`: the digits without zeros at their end.
* `Decimal.ratio`: the size of the number as a quotient of naturals.
-/

namespace RefAtlas.Number
set_option autoImplicit false

/-- The number `± digits · 10 ^ exponent`. Zero keeps its sign. -/
structure Decimal where
  negative : Bool
  digits : Nat
  exponent : Int
deriving DecidableEq, Repr

inductive Numeral where
  | finite (value : Decimal)
  /-- A number beyond every ordinary one. -/
  | infinite (negative : Bool)
  /-- No number at all. -/
  | undefined
deriving DecidableEq, Repr

/-- A number as it stands in data: with a point or a power of ten, or without either. -/
inductive Literal where
  | integer (value : Int)
  | real (value : Numeral)
deriving DecidableEq, Repr

/-- The choice between two decimals with successive digits that are equally near. -/
inductive Tie where
  /-- The one with the even digits. -/
  | toEven
  /-- The one farther from zero. -/
  | up
deriving DecidableEq, Repr

def Tie.prefersUpper (digits : Nat) : Tie → Bool
  | toEven => digits % 2 == 1
  | up => true

namespace Decimal

def ofNat (n : Nat) : Decimal := ⟨false, n, 0⟩

def stripZeros : (limit : Nat) → (digits : Nat) → (exponent : Int) → Nat × Int
  | 0, digits, exponent => (digits, exponent)
  | limit + 1, digits, exponent =>
    if digits != 0 && digits % 10 == 0 then stripZeros limit (digits / 10) (exponent + 1)
    else (digits, exponent)

/-- The same number, its digits without zeros at their end; zero is written with exponent zero. -/
def normalize (d : Decimal) : Decimal :=
  if d.digits == 0 then ⟨d.negative, 0, 0⟩
  else
    let (digits, exponent) := stripZeros (Nat.toDigits 10 d.digits).length d.digits d.exponent
    ⟨d.negative, digits, exponent⟩

def ratio (d : Decimal) : Nat × Nat :=
  if d.exponent < 0 then (d.digits, Nat.pow 10 d.exponent.natAbs)
  else (d.digits * Nat.pow 10 d.exponent.natAbs, 1)

/-- The number of digits in front of the decimal point, as if the digits were written out. -/
def pointPosition (d : Decimal) : Int := (Nat.toDigits 10 d.digits).length + d.exponent

end Decimal

end RefAtlas.Number
