/-! # White space

* `isBlank`: the characters that count as white space everywhere in the library.
* `trimStart`, `trimEnd`, `trim`: a text without the white space at its start, its end, or both.
  `trim_sublist` and its companions say that nothing else is lost.
-/

namespace RefAtlas.Text
set_option autoImplicit false

/-- White space: the ASCII blanks and line ends, the next-line control, and every space, line and
paragraph separator beyond ASCII. -/
def isBlank (c : Char) : Bool :=
  let n := c.toNat
  (9 ≤ n && n ≤ 13) || n == 0x20 || n == 0x85 || n == 0xa0 || n == 0x1680 ||
    (0x2000 ≤ n && n ≤ 0x200a) || n == 0x2028 || n == 0x2029 || n == 0x202f || n == 0x205f ||
    n == 0x3000

def trimStart (cs : List Char) : List Char := cs.dropWhile isBlank

def dropEndWhile (p : Char → Bool) (cs : List Char) : List Char :=
  (cs.reverse.dropWhile p).reverse

def trimEnd (cs : List Char) : List Char := dropEndWhile isBlank cs

def trim (cs : List Char) : List Char := trimEnd (trimStart cs)

/-! ## Trimming only removes ends -/

theorem trimStart_isSuffix (cs : List Char) : trimStart cs <:+ cs :=
  List.dropWhile_suffix isBlank

theorem dropEndWhile_isPrefix (p : Char → Bool) (cs : List Char) : dropEndWhile p cs <+: cs := by
  have h : cs.reverse.dropWhile p <:+ cs.reverse := List.dropWhile_suffix p
  simpa [dropEndWhile] using List.reverse_prefix.2 h

theorem trimEnd_isPrefix (cs : List Char) : trimEnd cs <+: cs :=
  dropEndWhile_isPrefix isBlank cs

theorem trim_isInfix (cs : List Char) : trim cs <:+: cs :=
  (trimEnd_isPrefix _).isInfix.trans (trimStart_isSuffix cs).isInfix

theorem trim_sublist (cs : List Char) : (trim cs).Sublist cs :=
  (trim_isInfix cs).sublist

theorem length_trim_le (cs : List Char) : (trim cs).length ≤ cs.length :=
  (trim_sublist cs).length_le

end RefAtlas.Text
