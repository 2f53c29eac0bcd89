import Mathlib.Data.List.Lex
import Mathlib.Data.String.Basic

/-! # The order of bytes

Texts are compared character by character. UTF-8 is made so that comparing the bytes comes to the
same: of two different characters the lesser one has the lesser bytes, whatever follows them.

* `utf8`: the bytes of a text.
* `utf8EncodeChar_append_lt`: two characters; `lt_iff_utf8_lt`: two texts.
-/

namespace RefAtlas.Text
set_option autoImplicit false

def utf8 (s : String) : List UInt8 := s.toByteArray.data.toList

theorem utf8_eq_flatMap (s : String) : utf8 s = s.toList.flatMap String.utf8EncodeChar := by
  have hbytes : s.toList.utf8Encode.data.toList = s.toList.flatMap String.utf8EncodeChar := by
    rw [List.utf8Encode, List.toList_data_toByteArray]
  rw [← hbytes, String.utf8Encode_toList]
  rfl

theorem toNat_val_lt (c : Char) : c.val.toNat < 0x110000 := by
  have h := c.valid
  simp only [UInt32.isValidChar, Nat.isValidChar] at h
  omega

theorem utf8EncodeChar_ne_nil (c : Char) : String.utf8EncodeChar c ≠ [] := by
  simp only [String.utf8EncodeChar]
  split_ifs <;> simp

theorem cons_ofNat_lt_iff {a b : Nat} {xs ys : List UInt8} (ha : a < 256) (hb : b < 256) :
    UInt8.ofNat a :: xs < UInt8.ofNat b :: ys ↔ a < b ∨ a = b ∧ xs < ys := by
  have hinj : UInt8.ofNat a = UInt8.ofNat b ↔ a = b := by
    rw [← UInt8.toNat_inj, UInt8.toNat_ofNat', UInt8.toNat_ofNat']
    omega
  rw [List.cons_lt_cons_iff, UInt8.ofNat_lt_iff_lt ha hb, hinj]

theorem digits_lt {m n : Nat} (h : m < n) :
    m / 64 / 64 / 64 < n / 64 / 64 / 64 ∨ m / 64 / 64 / 64 = n / 64 / 64 / 64 ∧
      (m / 64 / 64 % 64 < n / 64 / 64 % 64 ∨ m / 64 / 64 % 64 = n / 64 / 64 % 64 ∧
        (m / 64 % 64 < n / 64 % 64 ∨ m / 64 % 64 = n / 64 % 64 ∧ m % 64 < n % 64)) := by
  have hdigit : ∀ {a b}, a < b → a / 64 < b / 64 ∨ a / 64 = b / 64 ∧ a % 64 < b % 64 := by omega
  rcases hdigit h with h₁ | ⟨h₁, h₀⟩
  · rcases hdigit h₁ with h₂ | ⟨h₂, h₁⟩
    · rcases hdigit h₂ with h₃ | ⟨h₃, h₂⟩
      · exact .inl h₃
      · exact .inr ⟨h₃, .inl h₂⟩
    · exact .inr ⟨by rw [h₂], .inr ⟨by rw [h₂], .inl h₁⟩⟩
  · exact .inr ⟨by rw [h₁], .inr ⟨by rw [h₁], .inr ⟨by rw [h₁], h₀⟩⟩⟩

theorem utf8EncodeChar_append_lt {c d : Char} (h : c < d) (xs ys : List UInt8) :
    String.utf8EncodeChar c ++ xs < String.utf8EncodeChar d ++ ys := by
  have hcd : c.val.toNat < d.val.toNat := h
  have hdigits := digits_lt hcd
  have hd := toNat_val_lt d
  have hsecond : ∀ k, k / 4096 = k / 64 / 64 := by omega
  have hthird : ∀ k, k / 262144 = k / 64 / 64 / 64 := by omega
  simp only [String.utf8EncodeChar, hsecond, hthird]
  generalize c.val.toNat = m at *
  generalize d.val.toNat = n at *
  have htop : n / 64 / 64 / 64 < 8 := by omega
  -- longer codes begin with greater bytes; codes of one length are compared digit by digit
  split_ifs <;> simp (disch := omega) only [List.cons_append, List.nil_append, cons_ofNat_lt_iff]
    <;> omega

theorem lt_iff_utf8_lt (s t : String) : s < t ↔ utf8 s < utf8 t := by
  have hmono : ∀ cs ds : List Char, cs < ds →
      cs.flatMap String.utf8EncodeChar < ds.flatMap String.utf8EncodeChar := by
    intro cs ds h
    induction cs generalizing ds with
    | nil =>
      cases ds with
      | nil => exact absurd h (lt_irrefl _)
      | cons d ds =>
        obtain ⟨b, bs, hbs⟩ := List.exists_cons_of_ne_nil (utf8EncodeChar_ne_nil d)
        simp [hbs]
    | cons c cs ih =>
      cases ds with
      | nil => exact absurd h (List.not_lt_nil _)
      | cons d ds =>
        rw [List.flatMap_cons, List.flatMap_cons]
        rcases List.cons_lt_cons_iff.1 h with hcd | ⟨rfl, hrest⟩
        · exact utf8EncodeChar_append_lt hcd _ _
        · exact List.append_left_lt (ih ds hrest)
  rw [String.lt_iff_toList_lt, utf8_eq_flatMap, utf8_eq_flatMap]
  constructor
  · exact hmono _ _
  · intro h
    rcases lt_trichotomy s.toList t.toList with hst | hst | hst
    · exact hst
    · rw [hst] at h
      exact absurd h (List.lt_irrefl _)
    · exact absurd h (List.lt_asymm (hmono _ _ hst))

end RefAtlas.Text
