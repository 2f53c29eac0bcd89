import RefAtlas.Data.Value
import RefAtlas.Number.Binary
import RefAtlas.Text.Natural

/-! # Numbers and times of TOML

* `readNumber`: integers of eight bytes to four bases, numbers with a point or a power of ten, and
  the words for infinity and for no number.
* `readTime`: dates, times of day and both together.
-/

namespace RefAtlas.Data.Toml
open RefAtlas.Number RefAtlas.Text
set_option autoImplicit false

/-! ## Digits -/

/-- Reads digits, of which any two may be parted by one underscore. -/
def readDigits (isDigit : Char → Bool) : List Char → Option (List Char × List Char)
  | [] => none
  | c :: cs =>
    if isDigit c then
      match cs with
      | [] => some ([c], [])
      | '_' :: rest => (readDigits isDigit rest).map fun (ds, rest) => (c :: ds, rest)
      | d :: rest =>
        if isDigit d then (readDigits isDigit (d :: rest)).map fun (ds, rest) => (c :: ds, rest)
        else some ([c], d :: rest)
    else none

def readSign : List Char → Bool × List Char
  | '-' :: cs => (true, cs)
  | '+' :: cs => (false, cs)
  | cs => (false, cs)

/-- Reads the digits of a decimal integer; a zero in front stands alone. -/
def readWhole (cs : List Char) : Option (List Char × List Char) :=
  match cs with
  | '0' :: rest => some (['0'], rest)
  | cs => readDigits Char.isDigit cs

/-! ## Numbers -/

def integer? (negative : Bool) (n : Nat) : Option Literal :=
  if negative then if n ≤ naturalLimit / 2 then some (.integer (-n)) else none
  else if n < naturalLimit / 2 then some (.integer n) else none

def readBased (base : Nat) (cs : List Char) : Option (Literal × List Char) :=
  let isDigit := fun c => ((digitValue? c).filter (· < base)).isSome
  match readDigits isDigit cs with
  | none => none
  | some (digits, rest) =>
    ((valueIn? base digits).bind (integer? false)).map fun n => (n, rest)

def readFraction (cs : List Char) : Option (Option (List Char) × List Char) :=
  match cs with
  | '.' :: cs => (readDigits Char.isDigit cs).map fun (digits, rest) => (some digits, rest)
  | cs => some (none, cs)

def readExponent (cs : List Char) : Option (Option Int × List Char) :=
  match cs with
  | [] => some (none, [])
  | c :: rest =>
    if c == 'e' || c == 'E' then
      let (negative, rest) := readSign rest
      (readDigits Char.isDigit rest).map fun (digits, rest) =>
        let n : Int := digitsValue digits
        (some (if negative then -n else n), rest)
    else some (none, cs)

/-- The number that is no integer with the given parts. One that is too great for eight bytes is
refused; one that is too small for them is infinite. -/
def decimal? (negative : Bool) (whole fraction : List Char) (exponent : Int) : Option Literal :=
  let d : Decimal := ⟨negative, digitsValue (whole ++ fraction), exponent - fraction.length⟩
  if BinaryFormat.double.ofDecimal d == BinaryFormat.double.infinity then
    if negative then some (.real (.infinite true)) else none
  else some (.real (.finite d))

def readDecimal (negative : Bool) (cs : List Char) : Option (Literal × List Char) :=
  match readWhole cs with
  | none => none
  | some (whole, rest) =>
    match readFraction rest with
    | none => none
    | some (fraction, rest) =>
      match readExponent rest with
      | none => none
      | some (exponent, rest) =>
        let number :=
          if fraction.isNone && exponent.isNone then integer? negative (digitsValue whole)
          else decimal? negative whole (fraction.getD []) (exponent.getD 0)
        number.map fun n => (n, rest)

def readNumber (cs : List Char) : Option (Literal × List Char) :=
  match cs with
  | '0' :: 'x' :: cs => readBased 16 cs
  | '0' :: 'o' :: cs => readBased 8 cs
  | '0' :: 'b' :: cs => readBased 2 cs
  | cs =>
    let (negative, cs) := readSign cs
    match cs with
    | 'i' :: 'n' :: 'f' :: cs => some (.real (.infinite negative), cs)
    | 'n' :: 'a' :: 'n' :: cs => some (.real .undefined, cs)
    | cs => readDecimal negative cs

/-! ## Dates and times -/

/-- Reads exactly `count` digits that write a number between two bounds. -/
def readPart (count low high : Nat) (cs : List Char) : Option (Nat × List Char) :=
  let digits := cs.take count
  if digits.length < count || !digits.all Char.isDigit then none
  else
    let n := digitsValue digits
    if low ≤ n && n ≤ high then some (n, cs.drop count) else none

def expectChar? (c : Char) (cs : List Char) : Option (List Char) :=
  match cs with
  | d :: rest => if d == c then some rest else none
  | [] => none

def daysOf (year month : Nat) : Nat :=
  let leap := year % 4 == 0 && (year % 100 != 0 || year % 400 == 0)
  if month == 2 then if leap then 29 else 28
  else if [4, 6, 9, 11].contains month then 30
  else 31

def afterDate? (cs : List Char) : Option (List Char) := do
  let (year, cs) ← readPart 4 0 9999 cs
  let cs ← expectChar? '-' cs
  let (month, cs) ← readPart 2 1 12 cs
  let cs ← expectChar? '-' cs
  let (_, cs) ← readPart 2 1 (daysOf year month) cs
  return cs

/-- The text behind a time of day. A point is part of it if a digit follows. -/
def afterClock? (cs : List Char) : Option (List Char) := do
  let (_, cs) ← readPart 2 0 23 cs
  let cs ← expectChar? ':' cs
  let (_, cs) ← readPart 2 0 59 cs
  let cs ← expectChar? ':' cs
  let (_, cs) ← readPart 2 0 60 cs
  match cs with
  | '.' :: d :: rest => if d.isDigit then some (rest.dropWhile Char.isDigit) else some cs
  | cs => some cs

def afterOffset (cs : List Char) : List Char :=
  let after? : Option (List Char) :=
    match cs with
    | [] => none
    | c :: rest =>
      if c == 'Z' || c == 'z' then some rest
      else if c == '+' || c == '-' then do
        let (_, rest) ← readPart 2 0 23 rest
        let rest ← expectChar? ':' rest
        let (_, rest) ← readPart 2 0 59 rest
        return rest
      else none
  after?.getD cs

def afterDateClock (cs : List Char) : List Char :=
  match cs with
  | c :: rest =>
    if c == 'T' || c == 't' || c == ' ' then ((afterClock? rest).map afterOffset).getD cs else cs
  | [] => []

def afterTime? (cs : List Char) : Option (List Char) :=
  match afterDate? cs with
  | some rest => some (afterDateClock rest)
  | none => afterClock? cs

/-- The value of a time, a record that says how it is written. -/
def timeValue (text : List Char) : Value := .record [("time", .text (String.ofList text))]

def readTime (cs : List Char) : Option (Value × List Char) :=
  (afterTime? cs).map fun rest => (timeValue (cs.take (cs.length - rest.length)), rest)

end RefAtlas.Data.Toml
