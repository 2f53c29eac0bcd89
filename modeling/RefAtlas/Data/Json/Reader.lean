import RefAtlas.Data.Value
import RefAtlas.Number.Scaled
import RefAtlas.Text.Natural

/-! # Reading JSON

* `readText`: a text, whose escapes may write characters as pairs of halves.
* `readNumber`: a number. Integers that fit into eight bytes are told apart from all other numbers;
  a negative zero is no integer.
* `Json.read?`: one value and nothing behind it.
-/

namespace RefAtlas.Data.Json
open RefAtlas.Number RefAtlas.Text
set_option autoImplicit false

def isSpace (c : Char) : Bool := c == ' ' || c == '\t' || c == '\n' || c == '\r'

def skipSpace (cs : List Char) : List Char := cs.dropWhile isSpace

/-! ## Texts -/

/-- Whether a code is a half of a pair, and so no character by itself. -/
def isHalf (code : Nat) : Bool := 0xd800 ≤ code && code < 0xe000

def pairedChar? (high low : Nat) : Option Char :=
  if 0xd800 ≤ high && high < 0xdc00 && 0xdc00 ≤ low && low < 0xe000 then
    some (Char.ofNat (0x10000 + (high - 0xd800) * 0x400 + (low - 0xdc00)))
  else none

/-- The text with the given codes, unless a half of a pair stands alone; `before` holds the
characters of the codes in front of them, the last one first. -/
def joinCodes? (before : List Char) : List Nat → Option String
  | [] => some (String.ofList before.reverse)
  | [code] => if isHalf code then none else some (String.ofList (Char.ofNat code :: before).reverse)
  | high :: low :: rest =>
    if isHalf high then
      match pairedChar? high low with
      | some c => joinCodes? (c :: before) rest
      | none => none
    else joinCodes? (Char.ofNat high :: before) (low :: rest)

/-- Reads the rest of a text up to its closing quote, as the codes that it writes; `before` holds
what has been read, the last code first. -/
def readCodes (before : List Nat) : List Char → Option (List Nat × List Char)
  | [] => none
  | '"' :: rest => some (before.reverse, rest)
  | '\\' :: '"' :: rest => readCodes (0x22 :: before) rest
  | '\\' :: '\\' :: rest => readCodes (0x5c :: before) rest
  | '\\' :: '/' :: rest => readCodes (0x2f :: before) rest
  | '\\' :: 'b' :: rest => readCodes (0x8 :: before) rest
  | '\\' :: 'f' :: rest => readCodes (0xc :: before) rest
  | '\\' :: 'n' :: rest => readCodes (0xa :: before) rest
  | '\\' :: 'r' :: rest => readCodes (0xd :: before) rest
  | '\\' :: 't' :: rest => readCodes (0x9 :: before) rest
  | '\\' :: 'u' :: a :: b :: c :: d :: rest =>
    match valueIn? 16 [a, b, c, d] with
    | some code => readCodes (code :: before) rest
    | none => none
  | c :: rest =>
    if c == '\\' || c.toNat < 0x20 then none else readCodes (c.toNat :: before) rest

/-- Reads the rest of a text up to its closing quote. There is no text if a half of a pair stands
alone. -/
def readText (cs : List Char) : Option (Option String × List Char) :=
  (readCodes [] cs).map fun (codes, rest) => (joinCodes? [] codes, rest)

/-! ## Numbers -/

def spanDigits (cs : List Char) : List Char × List Char := cs.span Char.isDigit

def readFraction (cs : List Char) : Option (List Char × List Char) :=
  match cs with
  | '.' :: rest =>
    let (digits, rest) := spanDigits rest
    if digits.isEmpty then none else some (digits, rest)
  | cs => some ([], cs)

def readExponent (cs : List Char) : Option (Option Int × List Char) :=
  match cs with
  | c :: rest =>
    if c == 'e' || c == 'E' then
      let (negative, rest) := match rest with
        | '-' :: rest => (true, rest)
        | '+' :: rest => (false, rest)
        | rest => (false, rest)
      let (digits, rest) := spanDigits rest
      if digits.isEmpty then none
      else
        let n : Int := digitsValue digits
        some (some (if negative then -n else n), rest)
    else some (none, cs)
  | [] => some (none, [])

/-- Takes in digits behind those of `n` as long as eight bytes can hold the natural, and leaves the
others. -/
def takeDigits (n : Nat) : List Char → Nat × List Char
  | [] => (n, [])
  | c :: rest =>
    let next := 10 * n + (c.toNat - '0'.toNat)
    if next < naturalLimit then takeDigits next rest else (n, c :: rest)

/-- The decimal that the parts of a numeral write, with as many digits as eight bytes can hold.
Further digits in front of the point count as zeros, and further ones behind it do not count. -/
def decimalOf (negative : Bool) (whole fraction : List Char) (exponent : Int) : Decimal :=
  let (n, zeros) := takeDigits 0 whole
  let (n, left) := takeDigits n fraction
  ⟨negative, n, exponent + zeros.length + left.length - fraction.length⟩

def numberOf (negative : Bool) (whole fraction : List Char) (exponent : Option Int) : Value :=
  let n := digitsValue whole
  if fraction.isEmpty && exponent.isNone &&
    (if negative then 0 < n && n ≤ naturalLimit / 2 else n < naturalLimit) then
    .number (.integer (if negative then -n else n))
  else
    match (decimalOf negative whole fraction (exponent.getD 0)).scaled? with
    | some d => .number (.real (.finite d))
    | none => .unreadable

def readNumber (cs : List Char) : Option (Value × List Char) :=
  let (negative, cs) := match cs with
    | '-' :: rest => (true, rest)
    | cs => (false, cs)
  let (whole, rest) := spanDigits cs
  if whole.isEmpty || (whole.head? == some '0' && whole.length != 1) then none
  else
    match readFraction rest with
    | none => none
    | some (fraction, rest) =>
      match readExponent rest with
      | none => none
      | some (exponent, rest) => some (numberOf negative whole fraction exponent, rest)

/-! ## Values -/

def expect? : List Char → List Char → Option (List Char)
  | [], cs => some cs
  | x :: xs, c :: cs => if x == c then expect? xs cs else none
  | _ :: _, [] => none

def textOf : Option String → Value
  | some s => .text s
  | none => .unreadable

/-- The value of a record. It makes no sense if a name in it is no text. -/
def recordOf (fields : List (Option String × Value)) : Value :=
  match fields.mapM fun f => f.1.map fun name => (name, f.2) with
  | some fields => .record fields
  | none => .unreadable

mutual

/-- Reads a value; `limit` bounds the number of steps. -/
def readValue : (limit : Nat) → List Char → Option (Value × List Char)
  | 0, _ => none
  | limit + 1, cs =>
    match skipSpace cs with
    | [] => none
    | 'n' :: rest => (expect? ['u', 'l', 'l'] rest).map fun rest => (.null, rest)
    | 't' :: rest => (expect? ['r', 'u', 'e'] rest).map fun rest => (.bool true, rest)
    | 'f' :: rest => (expect? ['a', 'l', 's', 'e'] rest).map fun rest => (.bool false, rest)
    | '"' :: rest => (readText rest).map fun (s?, rest) => (textOf s?, rest)
    | '[' :: rest =>
      match skipSpace rest with
      | ']' :: rest => some (.list [], rest)
      | rest => (readItems limit rest).map fun (vs, rest) => (.list vs, rest)
    | '\x7b' :: rest =>
      match skipSpace rest with
      | '\x7d' :: rest => some (.record [], rest)
      | rest => (readFields limit rest).map fun (fs, rest) => (recordOf fs, rest)
    | cs => readNumber cs

def readItems : (limit : Nat) → List Char → Option (List Value × List Char)
  | 0, _ => none
  | limit + 1, cs =>
    match readValue limit cs with
    | none => none
    | some (v, rest) =>
      match skipSpace rest with
      | ']' :: rest => some ([v], rest)
      | ',' :: rest => (readItems limit rest).map fun (vs, rest) => (v :: vs, rest)
      | _ => none

def readFields : (limit : Nat) → List Char → Option (List (Option String × Value) × List Char)
  | 0, _ => none
  | limit + 1, cs =>
    match skipSpace cs with
    | '"' :: rest =>
      match readText rest with
      | none => none
      | some (name, rest) =>
        match skipSpace rest with
        | ':' :: rest =>
          match readValue limit rest with
          | none => none
          | some (v, rest) =>
            match skipSpace rest with
            | '\x7d' :: rest => some ([(name, v)], rest)
            | ',' :: rest =>
              (readFields limit rest).map fun (fs, rest) => ((name, v) :: fs, rest)
            | _ => none
        | _ => none
    | _ => none

end

/-- Reads a text that holds one value and nothing else. Every second step takes a character, which
bounds their number. -/
def read? (s : String) : Option Value :=
  let cs := s.toList
  match readValue (2 * cs.length + 1) cs with
  | some (v, rest) => if (skipSpace rest).isEmpty then some v else none
  | none => none

end RefAtlas.Data.Json
