import RefAtlas.Text.Blank

/-! # Naturals in text

* `digitsValue`, `valueIn?`: the natural that digits write, to base ten and to any base up to
  sixteen.
* `readNatural?`: reads a natural of eight bytes, as options and environment settings write it:
  digits with at most one plus sign in front.
-/

namespace RefAtlas.Text
set_option autoImplicit false

def digitsValue (cs : List Char) : Nat :=
  cs.foldl (fun n c => 10 * n + (c.toNat - '0'.toNat)) 0

def digitValue? (c : Char) : Option Nat :=
  if c.isDigit then some (c.toNat - '0'.toNat)
  else if 'a' ≤ c && c ≤ 'f' then some (c.toNat - 'a'.toNat + 10)
  else if 'A' ≤ c && c ≤ 'F' then some (c.toNat - 'A'.toNat + 10)
  else none

/-- The natural that digits to a base write; none if a character is no digit of that base. -/
def valueIn? (base : Nat) (cs : List Char) : Option Nat :=
  cs.foldl (fun value c =>
    match value, (digitValue? c).filter (· < base) with
    | some n, some d => some (base * n + d)
    | _, _ => none) (some 0)

def naturalLimit : Nat := 18446744073709551616

/-- The natural of eight bytes that a text writes. -/
def readNatural? (cs : List Char) : Option Nat :=
  let digits := match cs with
    | '+' :: rest => rest
    | cs => cs
  if digits.isEmpty then none else (valueIn? 10 digits).filter fun n => n < naturalLimit

end RefAtlas.Text
