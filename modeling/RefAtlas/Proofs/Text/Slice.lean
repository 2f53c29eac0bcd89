import Mathlib.Data.List.TakeWhile
import Mathlib.Data.String.Basic

/-! # Pieces between byte offsets

* `slice?`: the piece of a text between two offsets, counted in the bytes of UTF-8. There is none if an
  offset lies behind the text or inside a character, or if the second comes before the first
  (`slice?_eq_some_iff`).
* `offsetOf?`, `lastOffsetOf?`: where the first and the last character of a class begin.
-/

namespace RefAtlas.Text
open String (utf8Len)
set_option autoImplicit false

variable {p : Char → Bool} {c : Char} {cs front back : List Char}

/-- The text in front of an offset and behind it, unless it lies inside a character or behind the
text. -/
def cutAt? : (offset : Nat) → List Char → Option (List Char × List Char)
  | 0, cs => some ([], cs)
  | _ + 1, [] => none
  | n + 1, c :: cs =>
    if c.utf8Size ≤ n + 1 then
      (cutAt? (n + 1 - c.utf8Size) cs).map fun cut => (c :: cut.1, cut.2)
    else none

def slice? (cs : List Char) (start stop : Nat) : Option (List Char) :=
  if start ≤ stop then
    (cutAt? start cs).bind fun cut => (cutAt? (stop - start) cut.2).map Prod.fst
  else none

theorem cutAt?_append (front back : List Char) :
    cutAt? (utf8Len front) (front ++ back) = some (front, back) := by
  induction front with
  | nil => rw [String.utf8Len_nil, List.nil_append, cutAt?]
  | cons c front ih =>
    have hpos := c.utf8Size_pos
    obtain ⟨n, hn⟩ : ∃ n, utf8Len front + c.utf8Size = n + 1 :=
      ⟨utf8Len front + c.utf8Size - 1, by omega⟩
    have hrest : n + 1 - c.utf8Size = utf8Len front := by omega
    rw [String.utf8Len_cons, hn, List.cons_append, cutAt?, if_pos (by omega), hrest, ih]
    rfl

theorem eq_append_of_cutAt? {offset : Nat} (h : cutAt? offset cs = some (front, back)) :
    cs = front ++ back ∧ utf8Len front = offset := by
  fun_induction cutAt? offset cs generalizing front with
  | case1 cs =>
    cases h
    exact ⟨rfl, rfl⟩
  | case2 n => cases h
  | case3 n c cs hle ih =>
    obtain ⟨⟨front', back'⟩, hcut, hpair⟩ := Option.map_eq_some_iff.1 h
    cases hpair
    obtain ⟨rfl, hfront⟩ := ih hcut
    refine ⟨rfl, ?_⟩
    rw [String.utf8Len_cons, hfront]
    omega
  | case4 n c cs hgt => cases h

theorem cutAt?_eq_some_iff {offset : Nat} :
    cutAt? offset cs = some (front, back) ↔ cs = front ++ back ∧ utf8Len front = offset := by
  refine ⟨eq_append_of_cutAt?, ?_⟩
  rintro ⟨rfl, rfl⟩
  exact cutAt?_append front back

theorem slice?_eq_some_iff {start stop : Nat} {piece : List Char} :
    slice? cs start stop = some piece ↔ ∃ front back, cs = front ++ (piece ++ back) ∧
      utf8Len front = start ∧ start + utf8Len piece = stop := by
  unfold slice?
  split
  · rename_i hle
    constructor
    · intro h
      obtain ⟨⟨front, behind⟩, hfront, hbehind⟩ := Option.bind_eq_some_iff.1 h
      obtain ⟨⟨piece', back⟩, hpiece, rfl⟩ := Option.map_eq_some_iff.1 hbehind
      obtain ⟨rfl, hstart⟩ := cutAt?_eq_some_iff.1 hfront
      obtain ⟨rfl, hstop⟩ := cutAt?_eq_some_iff.1 hpiece
      exact ⟨front, back, rfl, hstart, by rw [hstop]; omega⟩
    · rintro ⟨front, back, rfl, rfl, rfl⟩
      rw [cutAt?_append, Option.bind_some, Nat.add_sub_cancel_left, cutAt?_append,
        Option.map_some]
  · rename_i hlt
    refine iff_of_false nofun ?_
    rintro ⟨_, _, -, -, rfl⟩
    omega

theorem slice?_append (front piece back : List Char) :
    slice? (front ++ (piece ++ back)) (utf8Len front) (utf8Len front + utf8Len piece) =
      some piece :=
  slice?_eq_some_iff.2 ⟨front, back, rfl, rfl, rfl⟩

theorem slice?_front (front back : List Char) :
    slice? (front ++ back) 0 (utf8Len front) = some front :=
  slice?_eq_some_iff.2 ⟨[], back, rfl, rfl, Nat.zero_add _⟩

theorem slice?_back (front back : List Char) :
    slice? (front ++ back) (utf8Len front) (utf8Len (front ++ back)) = some back :=
  slice?_eq_some_iff.2 ⟨front, [], by rw [List.append_nil], rfl, (String.utf8Len_append ..).symm⟩

theorem utf8Len_concat (cs : List Char) (c : Char) :
    utf8Len (cs ++ [c]) = utf8Len cs + c.utf8Size := by
  rw [String.utf8Len_append, String.utf8Len_cons, String.utf8Len_nil, Nat.zero_add]

theorem slice?_behind (hc : c.utf8Size = 1) (front back : List Char) :
    slice? (front ++ c :: back) (utf8Len front + 1) (utf8Len (front ++ c :: back)) = some back := by
  have hback := slice?_back (front ++ [c]) back
  rwa [utf8Len_concat, hc, List.append_assoc, List.singleton_append] at hback

/-! ## Where characters of a class begin -/

def offsetOf? (p : Char → Bool) : List Char → Option Nat
  | [] => none
  | c :: cs => if p c then some 0 else (offsetOf? p cs).map (· + c.utf8Size)

def lastOffsetOf? (p : Char → Bool) : List Char → Option Nat
  | [] => none
  | c :: cs =>
    match lastOffsetOf? p cs with
    | some offset => some (offset + c.utf8Size)
    | none => if p c then some 0 else none

theorem offsetOf?_cons_of_pos (hc : p c = true) : offsetOf? p (c :: cs) = some 0 := if_pos hc

theorem offsetOf?_cons_of_neg (hc : p c = false) :
    offsetOf? p (c :: cs) = (offsetOf? p cs).map (· + c.utf8Size) :=
  if_neg (Bool.eq_false_iff.1 hc)

theorem lastOffsetOf?_cons (p : Char → Bool) (c : Char) (cs : List Char) :
    lastOffsetOf? p (c :: cs) =
      match lastOffsetOf? p cs with
      | some offset => some (offset + c.utf8Size)
      | none => if p c then some 0 else none := rfl

theorem offsetOf?_eq_none (h : ∀ c ∈ cs, p c = false) : offsetOf? p cs = none := by
  induction cs with
  | nil => rfl
  | cons c cs ih =>
    obtain ⟨hc, hcs⟩ := List.forall_mem_cons.1 h
    rw [offsetOf?_cons_of_neg hc, ih hcs, Option.map_none]

theorem offsetOf?_append (h : ∀ c ∈ front, p c = false) (hc : p c = true) (back : List Char) :
    offsetOf? p (front ++ c :: back) = some (utf8Len front) := by
  induction front with
  | nil => exact offsetOf?_cons_of_pos hc
  | cons d front ih =>
    obtain ⟨hd, hfront⟩ := List.forall_mem_cons.1 h
    rw [List.cons_append, offsetOf?_cons_of_neg hd, ih hfront, Option.map_some, String.utf8Len_cons]

theorem getD_offsetOf? (p : Char → Bool) (cs : List Char) :
    (offsetOf? p cs).getD (utf8Len cs) = utf8Len (cs.takeWhile fun c => !p c) := by
  induction cs with
  | nil => rfl
  | cons c cs ih =>
    cases hc : p c with
    | true =>
      rw [offsetOf?_cons_of_pos hc, List.takeWhile_cons_of_neg (by simp [hc])]
      rfl
    | false =>
      rw [offsetOf?_cons_of_neg hc, List.takeWhile_cons_of_pos (by simp [hc]), String.utf8Len_cons,
        String.utf8Len_cons, ← ih]
      cases offsetOf? p cs <;> rfl

theorem lastOffsetOf?_eq_none (h : ∀ c ∈ cs, p c = false) : lastOffsetOf? p cs = none := by
  induction cs with
  | nil => rfl
  | cons c cs ih =>
    obtain ⟨hc, hcs⟩ := List.forall_mem_cons.1 h
    rw [lastOffsetOf?_cons, ih hcs, hc, if_neg Bool.false_ne_true]

theorem lastOffsetOf?_append (hc : p c = true) (h : ∀ c ∈ back, p c = false) (front : List Char) :
    lastOffsetOf? p (front ++ c :: back) = some (utf8Len front) := by
  induction front with
  | nil => rw [List.nil_append, lastOffsetOf?_cons, lastOffsetOf?_eq_none h, if_pos hc]; rfl
  | cons d front ih => rw [List.cons_append, lastOffsetOf?_cons, ih, String.utf8Len_cons]

theorem lastOffsetOf?_append_of_forall (h : ∀ c ∈ back, p c = false) (front : List Char) :
    lastOffsetOf? p (front ++ back) = lastOffsetOf? p front := by
  induction front with
  | nil => exact lastOffsetOf?_eq_none h
  | cons d front ih => rw [List.cons_append, lastOffsetOf?_cons, ih, lastOffsetOf?_cons]

theorem lt_of_lastOffsetOf? {offset : Nat} (h : lastOffsetOf? p cs = some offset) :
    offset < utf8Len cs := by
  induction cs generalizing offset with
  | nil => cases h
  | cons c cs ih =>
    rw [lastOffsetOf?_cons] at h
    rw [String.utf8Len_cons]
    cases hlast : lastOffsetOf? p cs with
    | some last =>
      rw [hlast] at h
      cases h
      exact Nat.add_lt_add_right (ih hlast) _
    | none =>
      rw [hlast] at h
      obtain ⟨-, hzero⟩ := Option.ite_none_right_eq_some.1 h
      cases hzero
      exact Nat.add_pos_right _ c.utf8Size_pos

end RefAtlas.Text
