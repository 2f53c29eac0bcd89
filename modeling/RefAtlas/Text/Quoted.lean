import RefAtlas.Text.Quoted.Table

/-! # Quoted text

`quoted` shows a text inside a message: in double quotes, with the usual short escapes, and with
every character that would not show as itself written by its number.
-/

namespace RefAtlas.Text
set_option autoImplicit false

def quotedChar (c : Char) : List Char :=
  match c with
  | '"' => ['\\', '"']
  | '\\' => ['\\', '\\']
  | '\t' => ['\\', 't']
  | '\r' => ['\\', 'r']
  | '\n' => ['\\', 'n']
  | '\x00' => ['\\', '0']
  | c =>
    if CodeRange.covers escapedRanges c.toNat then
      ['\\', 'u', '\x7b'] ++ Nat.toDigits 16 c.toNat ++ ['\x7d']
    else [c]

def quoted (s : String) : String :=
  String.ofList ('"' :: s.toList.flatMap quotedChar ++ ['"'])

end RefAtlas.Text
