import RefAtlas.Number.Decimal

/-! # Writing numerals

* `Decimal.render`: the text of a decimal in a given `DecimalStyle`.
* `messageStyle`: numbers inside messages are written out in full, and a tie goes away from zero.
* `dataStyle`: numbers inside data show that they are no integers, very large or very small ones are
  written with a power of ten, and a tie goes to the even digits.
-/

namespace RefAtlas.Number
set_option autoImplicit false

structure DecimalStyle where
  /-- The positions of the decimal point for which no power of ten is written. -/
  positional : Int → Bool
  wholeEnding : List Char
  tie : Tie

/-- Numbers inside messages: always in full, whole numbers without a point. A tie goes up. -/
def messageStyle : DecimalStyle := ⟨fun _ => true, [], .up⟩

/-- Numbers inside data: in full while the point stands at most five places before the digits and
at most thirteen behind their start, and always with a point or a power of ten. A tie goes to the
even digits. -/
def dataStyle : DecimalStyle :=
  ⟨fun point => -5 ≤ point && point ≤ 13, ['.', '0'], .toEven⟩

def digitChars (n : Nat) : List Char := Nat.toDigits 10 n

def integerChars (n : Int) : List Char :=
  if n < 0 then '-' :: digitChars n.natAbs else digitChars n.natAbs

def powerChars (n : Int) : List Char := (if n < 0 then '-' else '+') :: digitChars n.natAbs

def Decimal.renderSize (style : DecimalStyle) (d : Decimal) : List Char :=
  let d := d.normalize
  let digits := digitChars d.digits
  if d.digits == 0 then '0' :: style.wholeEnding
  else
    let point := d.pointPosition
    if style.positional point then
      if 0 ≤ d.exponent then digits ++ List.replicate d.exponent.natAbs '0' ++ style.wholeEnding
      else if 0 < point then digits.take point.natAbs ++ '.' :: digits.drop point.natAbs
      else '0' :: '.' :: List.replicate point.natAbs '0' ++ digits
    else match digits with
      | first :: rest =>
        first :: (if rest.isEmpty then [] else '.' :: rest) ++ 'e' :: powerChars (point - 1)
      | [] => []

def Decimal.render (style : DecimalStyle) (d : Decimal) : List Char :=
  if d.negative then '-' :: d.renderSize style else d.renderSize style

def Numeral.message : Numeral → String
  | .finite d => String.ofList (d.render messageStyle)
  | .infinite negative => if negative then "-inf" else "inf"
  | .undefined => "NaN"

end RefAtlas.Number
