import RefAtlas.Text.Word.Table

/-! # Word characters

* `isWord`: letters, marks, decimal digits, connectors such as `_`, and joiners.
* `isNameStart`: the ASCII letters and `_`, with which every name of the analysed language that
  this library reads begins. `isWord_of_isNameStart` says that such a character is a word character.
-/

namespace RefAtlas.Text
set_option autoImplicit false

def isAsciiWord (c : Char) : Bool := c.isAlphanum || c == '_'

def isWord (c : Char) : Bool :=
  if c.toNat < 0x80 then isAsciiWord c else CodeRange.covers wordRanges c.toNat

def isNameStart (c : Char) : Bool := c.isAlpha || c == '_'

theorem toNat_lt_of_isNameStart {c : Char} (h : isNameStart c = true) : c.toNat < 0x80 := by
  have alpha : c.isAlpha = (c.isUpper || c.isLower) := rfl
  have upper : c.isUpper = decide ('A'.val ≤ c.val ∧ c.val ≤ 'Z'.val) := rfl
  have lower : c.isLower = (decide ('a'.val ≤ c.val) && decide (c.val ≤ 'z'.val)) := rfl
  simp only [isNameStart, alpha, upper, lower, Bool.or_eq_true, Bool.and_eq_true,
    decide_eq_true_eq, beq_iff_eq] at h
  rcases h with (⟨_, h⟩ | ⟨_, h⟩) | h
  · have : c.val.toNat ≤ 'Z'.val.toNat := UInt32.le_iff_toNat_le.1 h
    exact Nat.lt_of_le_of_lt this (by decide)
  · have : c.val.toNat ≤ 'z'.val.toNat := UInt32.le_iff_toNat_le.1 h
    exact Nat.lt_of_le_of_lt this (by decide)
  · subst h; decide

theorem isWord_of_isNameStart {c : Char} (h : isNameStart c = true) : isWord c = true := by
  have hc := toNat_lt_of_isNameStart h
  have word : isAsciiWord c = (c.isAlpha || c.isDigit || c == '_') := rfl
  simp only [isWord, hc, if_true, word]
  simp only [isNameStart, Bool.or_eq_true] at h
  rcases h with h | h <;> simp [h]

end RefAtlas.Text
