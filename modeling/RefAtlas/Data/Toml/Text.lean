import RefAtlas.Text.Natural

/-! # Texts and keys of TOML

* `skipBlank`, `skipComment`, `skipLines`: what stands between values.
* `readText`: a text in any of the four kinds of quotes.
* `readKey`: the names of a key, joined by points.
-/

namespace RefAtlas.Data.Toml
open RefAtlas.Text
set_option autoImplicit false

/-! ## Between values -/

def isSpace (c : Char) : Bool := c == ' ' || c == '\t'

/-- Whether a character may stand in comments and texts: everything but control characters, the
tabulator excepted. -/
def isPrintable (c : Char) : Bool := c == '\t' || (0x20 ≤ c.toNat && c.toNat != 0x7f)

def skipBlank (cs : List Char) : List Char := cs.dropWhile isSpace

def newline? : List Char → Option (List Char)
  | '\n' :: cs => some cs
  | '\r' :: '\n' :: cs => some cs
  | _ => none

def skipComment (cs : List Char) : List Char :=
  match cs with
  | '#' :: cs => cs.dropWhile isPrintable
  | cs => cs

def endLine? (cs : List Char) : Option (List Char) :=
  match skipComment (skipBlank cs) with
  | [] => some []
  | cs => newline? cs

def skipEmpty : List Char → List Char
  | '\r' :: '\n' :: cs => skipEmpty cs
  | c :: cs => if isSpace c || c == '\n' then skipEmpty cs else c :: cs
  | [] => []

/-- The text behind white space, line ends and comments; `limit` bounds the number of comments. -/
def skipUpTo : (limit : Nat) → List Char → List Char
  | 0, cs => cs
  | limit + 1, cs =>
    match skipEmpty cs with
    | '#' :: cs => skipUpTo limit (cs.dropWhile isPrintable)
    | cs => cs

def skipLines (cs : List Char) : List Char := skipUpTo (cs.length + 1) cs

/-! ## Texts -/

def codeChar? (code : Nat) : Option Char := if code.isValidChar then some (Char.ofNat code) else none

/-- The character of an escape, without its backslash, and the text behind it. -/
def escape? : List Char → Option (Char × List Char)
  | 'b' :: cs => some ('\x08', cs)
  | 't' :: cs => some ('\t', cs)
  | 'n' :: cs => some ('\n', cs)
  | 'f' :: cs => some ('\x0c', cs)
  | 'r' :: cs => some ('\r', cs)
  | '"' :: cs => some ('"', cs)
  | '\\' :: cs => some ('\\', cs)
  | 'u' :: cs => hexChar? 4 cs
  | 'U' :: cs => hexChar? 8 cs
  | _ => none
where
  hexChar? (count : Nat) (cs : List Char) : Option (Char × List Char) :=
    if cs.length < count then none
    else ((valueIn? 16 (cs.take count)).bind codeChar?).map fun c => (c, cs.drop count)

/-- Reads the rest of a text on one line. `before` holds what has been read, the last character
first; `quote` ends the text; escapes count in double quotes only. `limit` bounds the number of
steps. -/
def readLine (quote : Char) : (limit : Nat) → (before : List Char) → List Char →
    Option (String × List Char)
  | 0, _, _ => none
  | _, _, [] => none
  | limit + 1, before, c :: cs =>
    if c == quote then some (String.ofList before.reverse, cs)
    else if c == '\\' && quote == '"' then
      match escape? cs with
      | some (c, cs) => readLine quote limit (c :: before) cs
      | none => none
    else if isPrintable c then readLine quote limit (c :: before) cs
    else none

/-- The text behind a backslash at the end of a line, up to the next character that is no white
space; none if the line goes on. -/
def continued? (cs : List Char) : Option (List Char) :=
  (newline? (skipBlank cs)).map skipEmpty

/-- Reads the rest of a text over several lines. Up to two quotes in a row belong to the text, at its
end too. Line ends are read as line feeds. -/
def readBlock (quote : Char) : (limit : Nat) → (before : List Char) → List Char →
    Option (String × List Char)
  | 0, _, _ => none
  | _, _, [] => none
  | limit + 1, before, c :: cs =>
    if c == quote then
      let run := (cs.takeWhile (· == quote)).length + 1
      let rest := cs.drop (run - 1)
      if run < 3 then readBlock quote limit (List.replicate run quote ++ before) rest
      else if run < 6 then
        some (String.ofList (List.replicate (run - 3) quote ++ before).reverse, rest)
      else none
    else if c == '\\' && quote == '"' then
      match continued? cs with
      | some cs => readBlock quote limit before cs
      | none =>
        match escape? cs with
        | some (c, cs) => readBlock quote limit (c :: before) cs
        | none => none
    else match newline? (c :: cs) with
      | some cs => readBlock quote limit ('\n' :: before) cs
      | none => if isPrintable c then readBlock quote limit (c :: before) cs else none

/-- Reads the text behind its opening quote. Three quotes open a text over several lines, whose
first line end does not count. -/
def readText (quote : Char) (cs : List Char) : Option (String × List Char) :=
  match cs with
  | a :: b :: rest =>
    if a == quote && b == quote then
      let rest := (newline? rest).getD rest
      readBlock quote (rest.length + 1) [] rest
    else readLine quote (cs.length + 1) [] cs
  | cs => readLine quote (cs.length + 1) [] cs

/-! ## Keys -/

/-- The depth that neither a key nor a value reaches. -/
def depthLimit : Nat := 80

def isBare (c : Char) : Bool := c.isAlphanum || c == '-' || c == '_'

def readName (cs : List Char) : Option (String × List Char) :=
  match cs with
  | '"' :: cs => readLine '"' (cs.length + 1) [] cs
  | '\'' :: cs => readLine '\'' (cs.length + 1) [] cs
  | cs =>
    let (name, rest) := cs.span isBare
    if name.isEmpty then none else some (String.ofList name, rest)

def readNames : (limit : Nat) → List Char → Option (List String × List Char)
  | 0, _ => none
  | limit + 1, cs =>
    match readName (skipBlank cs) with
    | none => none
    | some (name, cs) =>
      match skipBlank cs with
      | '.' :: cs => (readNames limit cs).map fun (names, cs) => (name :: names, cs)
      | cs => some ([name], cs)

/-- Reads a key, which has at least one name and fewer than `depthLimit`. -/
def readKey (cs : List Char) : Option (List String × List Char) :=
  (readNames (cs.length + 1) cs).filter fun (names, _) => names.length < depthLimit

end RefAtlas.Data.Toml
