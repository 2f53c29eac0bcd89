import Mathlib.Data.List.Induction
import Mathlib.Data.List.TakeWhile
import RefAtlas.Text.Blank
import RefAtlas.Text.Word

/-! # Texts without white space at their ends

* `Trimmed`: the texts that are not empty and have white space at neither end; `Trimmed.trim_eq`,
  `Trimmed.trim_append`. Every text that is trimmed and not left empty is one (`Trimmed.of_trim`).
* `exists_blanks_trim`: what is cut by trimming is white space.
* `trim_cons_of_isBlank`, `dropEndWhile_concat`: one more character at an end.
* `isBlank_eq_false_of_isWord`: no character of a word is white space.
-/

namespace RefAtlas.Text
set_option autoImplicit false

/-! ## One more character -/

theorem dropEndWhile_concat (p : Char → Bool) (cs : List Char) (c : Char) :
    dropEndWhile p (cs ++ [c]) = if p c then dropEndWhile p cs else cs ++ [c] := by
  rw [dropEndWhile, List.reverse_append, List.reverse_singleton, List.singleton_append,
    List.dropWhile_cons]
  split
  · rfl
  · rw [List.reverse_cons, List.reverse_reverse]

theorem trim_cons_of_isBlank {c : Char} (h : isBlank c = true) (cs : List Char) :
    trim (c :: cs) = trim cs := by
  rw [trim, trimStart, List.dropWhile_cons_of_pos h]
  rfl

/-! ## Trimmed texts -/

structure Trimmed (cs : List Char) : Prop where
  head : ∃ c rest, cs = c :: rest ∧ isBlank c = false
  last : ∃ rest c, cs = rest ++ [c] ∧ isBlank c = false

theorem Trimmed.of_forall {cs : List Char} (hne : cs ≠ []) (h : ∀ c ∈ cs, isBlank c = false) :
    Trimmed cs where
  head := by
    obtain ⟨c, rest, rfl⟩ := List.exists_cons_of_ne_nil hne
    exact ⟨c, rest, rfl, h c List.mem_cons_self⟩
  last := by
    have hlast := List.dropLast_concat_getLast hne
    exact ⟨_, _, hlast.symm, h _ (List.getLast_mem hne)⟩

theorem Trimmed.singleton {c : Char} (h : isBlank c = false) : Trimmed [c] :=
  ⟨⟨c, [], rfl, h⟩, ⟨[], c, rfl, h⟩⟩

section Trimmed
variable {cs ds : List Char}

theorem Trimmed.append (h : Trimmed cs) (between : List Char) (h' : Trimmed ds) :
    Trimmed (cs ++ (between ++ ds)) := by
  obtain ⟨c, rest, rfl, hc⟩ := h.head
  obtain ⟨rest', d, rfl, hd⟩ := h'.last
  refine ⟨⟨c, _, rfl, hc⟩, ⟨c :: rest ++ (between ++ rest'), d, ?_, hd⟩⟩
  rw [List.append_assoc, List.append_assoc]

theorem Trimmed.ne_nil (h : Trimmed cs) : cs ≠ [] := by
  obtain ⟨c, rest, rfl, -⟩ := h.head
  exact List.cons_ne_nil c rest

theorem Trimmed.trimStart_eq (h : Trimmed cs) : trimStart cs = cs := by
  obtain ⟨c, rest, rfl, hc⟩ := h.head
  exact List.dropWhile_cons_of_neg (by rw [hc]; exact Bool.false_ne_true)

theorem Trimmed.trimEnd_eq (h : Trimmed cs) : trimEnd cs = cs := by
  obtain ⟨rest, c, rfl, hc⟩ := h.last
  rw [trimEnd, dropEndWhile_concat, hc, if_neg Bool.false_ne_true]

theorem Trimmed.trim_eq (h : Trimmed cs) : trim cs = cs := by
  rw [trim, h.trimStart_eq, h.trimEnd_eq]

theorem Trimmed.trimEnd_append (h : Trimmed cs) (rest : List Char) :
    trimEnd (cs ++ rest) = cs ++ trimEnd rest := by
  induction rest using List.reverseRecOn with
  | nil =>
    rw [List.append_nil, h.trimEnd_eq]
    exact (List.append_nil cs).symm
  | append_singleton rest c ih =>
    rw [trimEnd, trimEnd, ← List.append_assoc, dropEndWhile_concat, dropEndWhile_concat]
    split
    · exact ih
    · rw [List.append_assoc]

theorem Trimmed.trimStart_append (h : Trimmed cs) (rest : List Char) :
    trimStart (cs ++ rest) = cs ++ rest := by
  obtain ⟨c, front, rfl, hc⟩ := h.head
  exact List.dropWhile_cons_of_neg (by rw [hc]; exact Bool.false_ne_true)

theorem Trimmed.trim_append (h : Trimmed cs) (rest : List Char) :
    trim (cs ++ rest) = cs ++ trimEnd rest := by
  rw [trim, h.trimStart_append, h.trimEnd_append]

theorem isBlank_of_head?_trimStart {c : Char} (h : (trimStart cs).head? = some c) :
    isBlank c = false := by
  have hhead := List.head?_dropWhile_not isBlank cs
  rwa [show (cs.dropWhile isBlank).head? = some c from h] at hhead

theorem isBlank_of_head?_trim {c : Char} (h : (trim cs).head? = some c) : isBlank c = false := by
  obtain ⟨rest, hcons⟩ := List.head?_eq_some_iff.1 h
  obtain ⟨back, hback⟩ := trimEnd_isPrefix (trimStart cs)
  rw [show trimEnd (trimStart cs) = c :: rest from hcons] at hback
  exact isBlank_of_head?_trimStart (congrArg List.head? hback.symm)

theorem Trimmed.of_trim (h : trim cs ≠ []) : Trimmed (trim cs) where
  head := by
    obtain ⟨c, rest, hcons⟩ := List.exists_cons_of_ne_nil h
    exact ⟨c, rest, hcons, isBlank_of_head?_trim (congrArg List.head? hcons)⟩
  last := by
    cases hlast : trimStart (trimStart cs).reverse with
    | nil => exact absurd (congrArg List.reverse hlast) h
    | cons c rest =>
      refine ⟨rest.reverse, c, (congrArg List.reverse hlast).trans List.reverse_cons, ?_⟩
      exact isBlank_of_head?_trimStart (congrArg List.head? hlast)

end Trimmed

/-- Trimming cuts white space at both ends and nothing else. -/
theorem exists_blanks_trim (cs : List Char) : ∃ front back, cs = front ++ (trim cs ++ back) ∧
    (∀ c ∈ front, isBlank c = true) ∧ ∀ c ∈ back, isBlank c = true := by
  refine ⟨cs.takeWhile isBlank, ((trimStart cs).reverse.takeWhile isBlank).reverse, ?_,
    fun c hc => List.mem_takeWhile_imp hc,
    fun c hc => List.mem_takeWhile_imp (List.mem_reverse.1 hc)⟩
  rw [trim, trimEnd, dropEndWhile, ← List.reverse_append, List.takeWhile_append_dropWhile,
    List.reverse_reverse, trimStart, List.takeWhile_append_dropWhile]

/-! ## Words -/

def blankCodes : List Nat :=
  List.range' 9 5 ++ [0x20, 0x85, 0xa0, 0x1680] ++ List.range' 0x2000 11 ++
    [0x2028, 0x2029, 0x202f, 0x205f, 0x3000]

theorem toNat_mem_blankCodes {c : Char} (h : isBlank c = true) : c.toNat ∈ blankCodes := by
  simp only [isBlank, Bool.or_eq_true, Bool.and_eq_true, decide_eq_true_eq, beq_iff_eq] at h
  simp only [blankCodes, List.mem_append, List.mem_range'_1, List.mem_cons, List.not_mem_nil]
  omega

theorem not_isWord_blankCodes : ∀ n ∈ blankCodes, isWord (Char.ofNat n) = false := by
  decide +kernel

theorem isBlank_eq_false_of_isWord {c : Char} (h : isWord c = true) : isBlank c = false := by
  refine Bool.eq_false_iff.2 fun hblank => ?_
  have hcode := not_isWord_blankCodes _ (toNat_mem_blankCodes hblank)
  rw [Char.ofNat_toNat, h] at hcode
  cases hcode

end RefAtlas.Text
