import RefAtlas.Number.Decimal
import RefAtlas.Text.Natural

/-! # Reading numerals

`Numeral.parse?` reads a numeral as options write it: digits with at most one sign, one point and one
power of ten, or one of the words `inf`, `infinity` and `nan` in any letter case.
-/

namespace RefAtlas.Number
open RefAtlas.Text
set_option autoImplicit false

def readPower? (cs : List Char) : Option Int :=
  match cs with
  | [] => some 0
  | c :: cs =>
    if c == 'e' || c == 'E' then
      let (negative, digits) := match cs with
        | '-' :: cs => (true, cs)
        | '+' :: cs => (false, cs)
        | cs => (false, cs)
      if digits.isEmpty || !digits.all Char.isDigit then none
      else
        let n : Int := digitsValue digits
        some (if negative then -n else n)
    else none

/-- Reads digits with or without a point and a power of ten. There is at least one digit. -/
def readSize? (negative : Bool) (cs : List Char) : Option Decimal :=
  let (whole, rest) := cs.span Char.isDigit
  let (fraction, rest) := match rest with
    | '.' :: rest => rest.span Char.isDigit
    | rest => ([], rest)
  if whole.isEmpty && fraction.isEmpty then none
  else (readPower? rest).map fun power =>
    ⟨negative, digitsValue (whole ++ fraction), power - fraction.length⟩

def Numeral.parse? (text : String) : Option Numeral :=
  let (negative, cs) := match text.toList with
    | '-' :: cs => (true, cs)
    | '+' :: cs => (false, cs)
    | cs => (false, cs)
  match String.ofList (cs.map Char.toLower) with
  | "inf" => some (.infinite negative)
  | "infinity" => some (.infinite negative)
  | "nan" => some .undefined
  | _ => (readSize? negative cs).map .finite

end RefAtlas.Number
