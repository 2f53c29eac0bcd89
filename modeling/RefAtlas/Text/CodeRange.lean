/-! # Ranges of code points

A class of characters is listed as ranges of code points in increasing order; `CodeRange.covers`
looks a code point up in such a list and stops at the first range that lies beyond it.
-/

namespace RefAtlas.Text
set_option autoImplicit false

/-- The code points from `first` to `last`, both included. -/
structure CodeRange where
  first : Nat
  last : Nat

def CodeRange.covers : List CodeRange → Nat → Bool
  | [], _ => false
  | range :: rest, code =>
    if code < range.first then false
    else code ≤ range.last || covers rest code

end RefAtlas.Text
