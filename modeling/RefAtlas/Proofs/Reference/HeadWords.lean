import Mathlib.Data.List.Basic
import Mathlib.Data.List.Flatten
import Mathlib.Data.List.Perm.Subperm
import RefAtlas.Proofs.Reference.TypeNames

/-! # What the readings of types can find

The readings of types take any text, also one that is cut off or unbalanced.

* `headWords`: the words of a text that can be read as names: those at its start, and those behind
  an opening bracket or a comma.
* `Narrows`: a text taken from another one, with what can be lost by that. Every step of the
  readings takes such a text (`Narrows.of_bareType`, `Narrows.of_leadingType`,
  `Narrows.of_tupleBody?`, `Narrows.of_upToClosingAngle`).
* `Plain`: the texts for which that is so; what is taken from them is plain as well.
-/

namespace RefAtlas.Reference
open RefAtlas.Text
set_option autoImplicit false

def startsItem : List Char → Bool
  | [] => false
  | c :: _ => isNamePart c || c == '('

/-- The words behind `<`, `(` and commas, and the one at the start of a `fresh` text. In place of the
word behind a parenthesis that has none, and no other parenthesis either, stands the parenthesis. -/
def headWords : (fresh : Bool) → List Char → List (List Char)
  | _, [] => []
  | fresh, c :: rest =>
    if isNamePart c then
      if fresh then (c :: rest.takeWhile isNamePart) :: headWords false rest
      else headWords false rest
    else if c == '(' then
      if startsItem rest then headWords true rest else ['('] :: headWords true rest
    else headWords (c == '<' || c == ',' || fresh && isBlank c) rest

def Excess (cs : List Char) : Prop := cs.count ')' < cs.count '('

/-! ## Head words of parts -/

section HeadWords
variable {cs ds : List Char} {c d : Char} {fresh : Bool}

theorem headWords_cons_of_isNamePart (h : isNamePart c = true) (cs : List Char) :
    headWords true (c :: cs) = (c :: cs.takeWhile isNamePart) :: headWords false cs := by
  rw [headWords, if_pos h, if_pos rfl]

theorem headWords_cons_of_stale (h : isNamePart c = true) (cs : List Char) :
    headWords false (c :: cs) = headWords false cs := by
  rw [headWords, if_pos h, if_neg Bool.false_ne_true]

theorem headWords_cons_of_not (h : isNamePart c = false) (hparen : c ≠ '(') (fresh : Bool)
    (cs : List Char) :
    headWords fresh (c :: cs) = headWords (c == '<' || c == ',' || fresh && isBlank c) cs := by
  rw [headWords, if_neg (by simp [h]), if_neg (by simpa using hparen)]

theorem headWords_paren (fresh : Bool) (cs : List Char) : headWords fresh ('(' :: cs) =
    if startsItem cs then headWords true cs else ['('] :: headWords true cs := by
  rw [headWords, if_neg (by decide), if_pos (beq_self_eq_true '(')]

/-- A text that is cut at the end of a word keeps its head words. -/
theorem headWords_append_cons (h : isNamePart d = false) (hparen : d ≠ '(') (fresh : Bool)
    (cs ds : List Char) : ∃ next, headWords fresh (cs ++ d :: ds) =
      headWords fresh cs ++ headWords next ds ∧ (d = ',' ∨ d = '<' → next = true) := by
  induction cs generalizing fresh with
  | nil =>
    refine ⟨_, headWords_cons_of_not h hparen fresh ds, ?_⟩
    rintro (rfl | rfl) <;> rfl
  | cons c cs ih =>
    rw [List.cons_append]
    by_cases hpart : isNamePart c = true
    · have hword : (cs ++ d :: ds).takeWhile isNamePart = cs.takeWhile isNamePart := by
        rw [List.takeWhile_append]
        split
        · rename_i hlength
          rw [(List.takeWhile_prefix isNamePart).eq_of_length hlength,
            List.takeWhile_cons_of_neg (by simp [h]), List.append_nil]
        · rfl
      obtain ⟨next, hnext, hfresh⟩ := ih false
      refine ⟨next, ?_, hfresh⟩
      cases fresh with
      | true =>
        rw [headWords_cons_of_isNamePart hpart, headWords_cons_of_isNamePart hpart, hword, hnext,
          List.cons_append]
      | false => rw [headWords_cons_of_stale hpart, headWords_cons_of_stale hpart, hnext]
    · have hpart := Bool.eq_false_iff.2 hpart
      by_cases hc : c = '('
      · have hstarts : startsItem (cs ++ d :: ds) = startsItem cs := by
          cases cs with
          | nil => simp [startsItem, h, hparen]
          | cons _ _ => rfl
        obtain ⟨next, hnext, hfresh⟩ := ih true
        refine ⟨next, ?_, hfresh⟩
        rw [hc, headWords_paren, headWords_paren, hstarts, hnext]
        split <;> rfl
      · obtain ⟨next, hnext, hfresh⟩ := ih (c == '<' || c == ',' || fresh && isBlank c)
        refine ⟨next, ?_, hfresh⟩
        rw [headWords_cons_of_not hpart hc, headWords_cons_of_not hpart hc, hnext]

theorem headWords_append_fresh (h : d = ',' ∨ d = '<') (fresh : Bool) (cs ds : List Char) :
    headWords fresh (cs ++ d :: ds) = headWords fresh cs ++ headWords true ds := by
  have hends : isNamePart d = false ∧ d ≠ '(' := by rcases h with rfl | rfl <;> decide
  obtain ⟨next, hnext, hfresh⟩ := headWords_append_cons hends.1 hends.2 fresh cs ds
  rw [hnext, hfresh h]

theorem headWords_stale {cs : List Char} (h : ∀ c ∈ cs, isNamePart c = true) (rest : List Char) :
    headWords false (cs ++ rest) = headWords false rest := by
  induction cs with
  | nil => rfl
  | cons c cs ih =>
    obtain ⟨hc, hcs⟩ := List.forall_mem_cons.1 h
    rw [List.cons_append, headWords_cons_of_stale hc, ih hcs]

theorem headWords_word {cs rest : List Char} (hne : cs ≠ []) (h : ∀ c ∈ cs, isNamePart c = true)
    (hrest : ∀ d ∈ rest.head?, isNamePart d = false) :
    headWords true (cs ++ rest) = cs :: headWords false rest := by
  obtain ⟨c, cs, rfl⟩ := List.exists_cons_of_ne_nil hne
  obtain ⟨hc, hcs⟩ := List.forall_mem_cons.1 h
  have hends : rest.takeWhile isNamePart = [] := by
    cases rest with
    | nil => rfl
    | cons d rest => exact List.takeWhile_cons_of_neg (by simp [hrest d rfl])
  rw [List.cons_append, headWords_cons_of_isNamePart hc, headWords_stale hcs,
    List.takeWhile_append_of_pos hcs, hends, List.append_nil]

theorem headWords_ne_nil_of_startsItem (h : startsItem cs = true) : headWords true cs ≠ [] := by
  induction cs with
  | nil => cases h
  | cons c cs ih =>
    by_cases hpart : isNamePart c = true
    · rw [headWords_cons_of_isNamePart hpart]
      exact List.cons_ne_nil _ _
    · have hc : c = '(' := by simpa [startsItem, hpart] using h
      rw [hc, headWords_paren]
      split
      · exact ih ‹_›
      · exact List.cons_ne_nil _ _

/-- No parenthesis stands without a head word. -/
theorem headWords_ne_nil_of_mem (h : '(' ∈ cs) (fresh : Bool) : headWords fresh cs ≠ [] := by
  induction cs generalizing fresh with
  | nil => cases h
  | cons c cs ih =>
    by_cases hc : c = '('
    · have hstarts : headWords true ('(' :: cs) ≠ [] := headWords_ne_nil_of_startsItem rfl
      rwa [hc, headWords_paren, ← headWords_paren true]
    · have hrest : '(' ∈ cs := (List.mem_cons.1 h).resolve_left fun heq => hc heq.symm
      rw [headWords, beq_false_of_ne hc]
      split
      · split
        · exact List.cons_ne_nil _ _
        · exact ih hrest false
      · exact ih hrest _

theorem Excess.mem (h : Excess cs) : '(' ∈ cs :=
  List.count_pos_iff.1 (Nat.zero_lt_of_lt h)

theorem Excess.of_append (h : Excess (cs ++ ds)) : Excess cs ∨ Excess ds := by
  rw [Excess, List.count_append, List.count_append] at h
  unfold Excess
  omega

theorem excess_cons_iff (hopen : c ≠ '(') (hclose : c ≠ ')') : Excess (c :: cs) ↔ Excess cs := by
  rw [Excess, List.count_cons_of_ne hopen, List.count_cons_of_ne hclose, Excess]

end HeadWords

/-! ## Texts taken from texts -/

/-- A text taken from another one: its head words are some of those there. A parenthesis that stays
open there does so here as well, or a head word is lost. -/
structure Narrows (cs ds : List Char) : Prop where
  subset : ds ⊆ cs
  words : (headWords true ds).Sublist (headWords true cs)
  excess : Excess cs → Excess ds ∨ (headWords true ds).length < (headWords true cs).length

namespace Narrows
variable {cs ds es : List Char}

theorem refl (cs : List Char) : Narrows cs cs :=
  ⟨List.Subset.refl cs, List.Sublist.refl _, .inl⟩

theorem trans (h : Narrows cs ds) (h' : Narrows ds es) : Narrows cs es where
  subset := List.Subset.trans h'.subset h.subset
  words := h'.words.trans h.words
  excess hexcess := by
    rcases h.excess hexcess with hds | hlost
    · rcases h'.excess hds with hes | hlost
      · exact .inl hes
      · exact .inr (Nat.lt_of_lt_of_le hlost h.words.length_le)
    · exact .inr (Nat.lt_of_le_of_lt h'.words.length_le hlost)

theorem of_append {rest : List Char}
    (h : ∀ d ∈ rest.head?, isNamePart d = false ∧ d ≠ '(') : Narrows (cs ++ rest) cs := by
  cases rest with
  | nil =>
    rw [List.append_nil]
    exact refl cs
  | cons d rest =>
    obtain ⟨hpart, hparen⟩ := h d rfl
    obtain ⟨next, hwords, -⟩ := headWords_append_cons hpart hparen true cs rest
    refine ⟨List.subset_append_left _ _, hwords ▸ List.sublist_append_left _ _, fun hexcess => ?_⟩
    refine hexcess.of_append.imp_right fun hrest => ?_
    -- A parenthesis that is cut off takes a head word with it.
    have hmem : '(' ∈ rest := (List.mem_cons.1 hrest.mem).resolve_left fun heq => hparen heq.symm
    have hpos := List.length_pos_iff.2 (headWords_ne_nil_of_mem hmem next)
    rw [hwords, List.length_append]
    omega

theorem of_dropEndWhile {p : Char → Bool}
    (h : ∀ c, p c = true → isNamePart c = false ∧ c ≠ '(') (cs : List Char) :
    Narrows cs (dropEndWhile p cs) := by
  have hsplit : dropEndWhile p cs ++ (cs.reverse.takeWhile p).reverse = cs := by
    rw [dropEndWhile, ← List.reverse_append, List.takeWhile_append_dropWhile, List.reverse_reverse]
  have hcut : Narrows (dropEndWhile p cs ++ (cs.reverse.takeWhile p).reverse)
      (dropEndWhile p cs) := of_append fun d hd =>
    h d (List.mem_takeWhile_imp (List.mem_reverse.1 (List.mem_of_mem_head? hd)))
  rwa [hsplit] at hcut

theorem blank {c : Char} (h : isBlank c = true) : isNamePart c = false ∧ c ≠ '(' := by
  constructor
  · refine Bool.eq_false_iff.2 fun hpart => ?_
    rw [isBlank_eq_false_of_isNamePart hpart] at h
    cases h
  · rintro rfl
    exact absurd h (by decide)

theorem of_trimStart (cs : List Char) : Narrows cs (trimStart cs) := by
  induction cs with
  | nil => exact refl []
  | cons c cs ih =>
    by_cases hblank : isBlank c = true
    · have hne : ∀ d, isBlank d = false → c ≠ d := fun d hd heq => by
        rw [← heq, hblank] at hd
        cases hd
      obtain ⟨hpart, hparen⟩ := blank hblank
      have hwords : headWords true (c :: cs) = headWords true cs := by
        rw [headWords_cons_of_not hpart hparen, hblank, Bool.true_and, Bool.or_true]
      rw [trimStart, List.dropWhile_cons_of_pos hblank]
      refine trans ⟨List.subset_cons_self c cs, hwords ▸ List.Sublist.refl _, fun hexcess => ?_⟩ ih
      exact .inl ((excess_cons_iff hparen (hne ')' (by decide))).1 hexcess)
    · rw [trimStart, List.dropWhile_cons_of_neg hblank]
      exact refl _

theorem of_trim (cs : List Char) : Narrows cs (trim cs) :=
  (of_trimStart cs).trans (of_dropEndWhile (fun _ => blank) _)

theorem of_bareType (h : '[' ∉ cs) : Narrows cs (bareType cs) := by
  have htrim := of_trim cs
  have hmark : ∀ c, (c == '?') = true → isNamePart c = false ∧ c ≠ '(' := by
    intro c hc
    rw [eq_of_beq hc]
    decide
  rw [bareType, withoutArraySuffix_of_not_mem fun hmem => h (htrim.subset hmem)]
  exact (htrim.trans (of_dropEndWhile hmark _)).trans (of_trim _)

theorem of_typeSpan (depth : Int) (cs : List Char) : Narrows cs (typeSpan depth cs) := by
  obtain ⟨rest, hsplit, hblank⟩ : ∃ rest, cs = typeSpan depth cs ++ rest ∧
      ∀ c ∈ rest.head?, isBlank c = true := by
    fun_induction typeSpan depth cs with
    | case1 => exact ⟨[], rfl, by simp⟩
    | case2 depth c rest hends =>
      simp only [Bool.and_eq_true] at hends
      exact ⟨c :: rest, rfl, by simpa using hends.1.1⟩
    | case3 depth c rest hgoes ih =>
      obtain ⟨tail, hsplit, hblank⟩ := ih
      exact ⟨tail, congrArg (c :: ·) hsplit, hblank⟩
  have hcut : Narrows (typeSpan depth cs ++ rest) (typeSpan depth cs) :=
    of_append fun d hd => blank (hblank d hd)
  rwa [← hsplit] at hcut

end Narrows

/-! ## Texts without ranks and modifiers -/

/-- No rank is in the text, and no head word is a modifier. -/
structure Plain (cs : List Char) : Prop where
  unranked : '[' ∉ cs
  unmodified : ∀ w ∈ headWords true cs, String.ofList w ∉ parameterModifiers

section Plain
variable {cs ds : List Char}

theorem Plain.mono (h : Plain cs) (hsubset : ds ⊆ cs)
    (hwords : (headWords true ds).Sublist (headWords true cs)) : Plain ds where
  unranked hmem := h.unranked (hsubset hmem)
  unmodified w hw := h.unmodified w (hwords.subset hw)

theorem Plain.narrows (h : Plain cs) (hnarrows : Narrows cs ds) : Plain ds :=
  h.mono hnarrows.subset hnarrows.words

theorem Plain.behind {d : Char} (h : Plain (cs ++ d :: ds)) (hd : d = ',' ∨ d = '<') :
    Plain ds := by
  refine h.mono (fun c hc => List.mem_append_right _ (List.mem_cons_of_mem _ hc)) ?_
  rw [headWords_append_fresh hd]
  exact List.sublist_append_right _ _

end Plain

/-! ## Parts of generic types and tuples -/

section Parts
variable {cs : List Char}

/-- The first word of a text is its first head word if it is a modifier. -/
theorem Plain.firstWord_not_modifier (h : Plain cs) :
    String.ofList (firstWord cs) ∉ parameterModifiers := by
  intro hmem
  have hword : ∀ c ∈ firstWord cs, isNamePart c = true := by
    intro c hc
    have hall := List.all_eq_true.1 (List.all_eq_true.1 all_modifiers_isWord _ hmem)
    rw [String.toList_ofList] at hall
    exact isNamePart_of_isWord (hall c hc)
  -- Up to white space there are only parts of a name, so the part of a name ends there too.
  have hpart : cs.takeWhile isNamePart = firstWord cs := by
    have hboth : (fun c => decide (isNamePart c = true ∧ (!isBlank c) = true)) = isNamePart := by
      funext c
      cases hc : isNamePart c
      · simp
      · simp [isBlank_eq_false_of_isNamePart hc]
    have htwice := List.takeWhile_takeWhile isNamePart (fun c => !isBlank c) cs
    rw [hboth] at htwice
    rw [← htwice]
    exact List.takeWhile_eq_self_iff.2 hword
  cases cs with
  | nil => exact absurd hmem (by decide)
  | cons c cs =>
    by_cases hc : isNamePart c = true
    · rw [List.takeWhile_cons_of_pos hc] at hpart
      refine h.unmodified _ ?_ hmem
      rw [headWords_cons_of_isNamePart hc, hpart]
      exact List.mem_cons_self
    · rw [List.takeWhile_cons_of_neg hc] at hpart
      rw [← hpart] at hmem
      exact absurd hmem (by decide)

theorem afterSections_eq_trimStart (h : '[' ∉ cs) : afterSections false cs = trimStart cs := by
  induction cs with
  | nil => rfl
  | cons c cs ih =>
    obtain ⟨hc, hrest⟩ := not_or.1 (mt List.mem_cons.2 h)
    rw [afterSections, beq_false_of_ne fun heq => hc heq.symm, if_neg Bool.false_ne_true, trimStart]
    by_cases hblank : isBlank c = true
    · rw [if_pos hblank, List.dropWhile_cons_of_pos hblank]
      exact ih hrest
    · rw [if_neg hblank, List.dropWhile_cons_of_neg hblank]

theorem Narrows.of_leadingType (h : Plain cs) : Narrows cs (leadingType cs) := by
  have hstart := (Narrows.of_trim cs).trans (Narrows.of_trimStart (trim cs))
  have hfree := (h.narrows (Narrows.of_trim cs)).unranked
  rw [leadingType, afterSections_eq_trimStart hfree,
    afterModifiers_of_unmodified (h.narrows hstart).firstWord_not_modifier]
  exact (hstart.trans (Narrows.of_typeSpan 0 _)).trans (Narrows.of_trim _)

theorem Narrows.of_tupleBody? {body : List Char} (h : tupleBody? cs = some body) :
    Narrows cs body := by
  obtain rfl : cs = '(' :: (body ++ [')']) := by
    unfold tupleBody? at h
    split at h
    · rename_i rest
      split at h
      · rename_i hlast
        cases h
        rw [beq_iff_eq] at hlast
        rw [List.dropLast_append_getLast? _ hlast]
      · cases h
    · cases h
  have hcut : Narrows (body ++ [')']) body := Narrows.of_append (by simp; decide)
  refine ⟨List.Subset.trans hcut.subset (List.subset_cons_self _ _), ?_, fun hexcess => .inl ?_⟩
  · rw [headWords_paren]
    split
    · exact hcut.words
    · exact hcut.words.trans (List.sublist_cons_self _ _)
  · simpa [Excess, List.count_cons] using hexcess

/-- The last closing angle bracket and what is behind it are left out. -/
theorem exists_last_of_mem {c : Char} (h : c ∈ cs) :
    ∃ front back, cs = front ++ c :: back ∧ c ∉ back := by
  obtain ⟨back, front, hsplit, hback⟩ := List.eq_append_cons_of_mem (List.mem_reverse.2 h)
  refine ⟨front.reverse, back.reverse, ?_, mt List.mem_reverse.1 hback⟩
  rw [← List.reverse_reverse cs, hsplit]
  simp

theorem upToClosingAngle_append_cons {back : List Char} (h : '>' ∉ back) (front : List Char) :
    upToClosingAngle (front ++ '>' :: back) = front := by
  have hpass : ∀ c ∈ back.reverse, (c != '>') = true := by
    intro c hc
    refine bne_iff_ne.2 ?_
    rintro rfl
    exact h (List.mem_reverse.1 hc)
  rw [upToClosingAngle, if_pos (by simp), dropEndWhile, List.reverse_append, List.reverse_cons,
    List.append_assoc, List.dropWhile_append_of_pos hpass, List.singleton_append,
    List.dropWhile_cons_of_neg (by decide), List.reverse_cons, List.reverse_reverse,
    List.dropLast_concat]

theorem exists_eq_upToClosingAngle_append (h : '>' ∈ cs) :
    ∃ rest, cs = upToClosingAngle cs ++ '>' :: rest := by
  obtain ⟨front, back, rfl, hback⟩ := exists_last_of_mem h
  exact ⟨back, by rw [upToClosingAngle_append_cons hback]⟩

theorem Narrows.of_upToClosingAngle (cs : List Char) : Narrows cs (upToClosingAngle cs) := by
  by_cases hmem : '>' ∈ cs
  · obtain ⟨rest, hsplit⟩ := exists_eq_upToClosingAngle_append hmem
    have hcut : Narrows (upToClosingAngle cs ++ '>' :: rest) (upToClosingAngle cs) :=
      Narrows.of_append (by simp; decide)
    rwa [← hsplit] at hcut
  · rw [upToClosingAngle_of_not_mem hmem]
    exact Narrows.refl cs

theorem exists_of_genericParts? {parts : List Char × List Char}
    (h : genericParts? cs = some parts) :
    ∃ base rest, cs = base ++ '<' :: rest ∧ parts = (trim base, upToClosingAngle rest) := by
  unfold genericParts? at h
  split at h
  · rename_i c rest hdrop
    have hc : (c != '<') = false := by
      have hhead := List.head?_dropWhile_not (· != '<') cs
      rw [hdrop] at hhead
      simpa using hhead
    have hangle : c = '<' := by simpa using hc
    refine ⟨cs.takeWhile (· != '<'), rest, ?_, (Option.some.inj h).symm⟩
    have hsplit := List.takeWhile_append_dropWhile (p := (· != '<')) (l := cs)
    rw [hdrop, hangle] at hsplit
    exact hsplit.symm
  · cases h

end Parts

end RefAtlas.Reference
