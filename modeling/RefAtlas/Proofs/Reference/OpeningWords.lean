import RefAtlas.Proofs.Pattern.Forms
import RefAtlas.Proofs.Pattern.Found
import RefAtlas.Proofs.Reference.Slots
import RefAtlas.Proofs.Text.Spaced

/-! # The words that open directives and declarations

* `OpensDirective`: a text begins like a directive; `directives_eq_empty` says that a line that does
  not is none.
* `mem_slot_classify_iff`: without directives, the names under a rule are those that it finds.
* `fits_wordEdge_wordThenBlanks`: a declaration is opened by a word of its own, white space and the
  start of a name.
* `openingWords`: the words in a text of tokens behind which a name begins;
  `exists_openingWord_of_occurs` says that every declaration is opened by one of them, and
  `exists_tokens_of_opensDirective` that a directive is opened by the first token.
-/

namespace RefAtlas.Reference
open RefAtlas.Text
open RefAtlas.Pattern (IsName)
set_option autoImplicit false

/-- White space, one of the words that open a directive, white space again and the start of a
name. -/
structure OpensDirective (cs gap : List Char) (word : String) (gap' : List Char) (c : Char)
    (rest : List Char) : Prop where
  text : cs = gap ++ (word.toList ++ (gap' ++ c :: rest))
  blank : ∀ d ∈ gap, isBlank d = true
  word : word ∈ ["global", "using"]
  apart : gap' ≠ []
  blank' : ∀ d ∈ gap', isBlank d = true
  starts : isNameStart c = true

section Pieces
variable {before : Option Char} {piece rest : List Char} {pieces : List (Nat × List Char)}

theorem fits_directivePattern (h : directivePattern.Fits before piece rest pieces) :
    before.all (· == '\n') = true ∧
      ∃ gap word gap' c tail, OpensDirective (piece ++ rest) gap word gap' c tail := by
  have hopen : ∀ p : Pattern, (Pattern.andThen (.optional (wordThenBlanks ["static"]))
      (.andThen (.optional (.andThen (.capture 1 .identifier) p))
        (.andThen (.capture 2 .dottedName) (.andThen .blanks (.text ";"))))).Opens isNameStart :=
    fun p => (Pattern.opens_wordThenBlanks rfl).optional
      (((Pattern.opens_identifier.capture 1).andThen p).optional
        ((Pattern.opens_dottedName.capture 2).andThen _))
  obtain ⟨_, _, _, _, rfl, rfl, ⟨rfl, rfl, hline⟩, gap, _, _, _, rfl, rfl, ⟨hgap, -, rfl⟩,
    first, _, _, _, rfl, rfl, hfirst, second, third, _, _, rfl, rfl, hsecond, hthird⟩ := h
  obtain ⟨⟨word, hword, gap', rfl, hne, hblank⟩, -, -⟩ :=
    Pattern.fits_wordThenBlanks_iff.1 hsecond
  refine ⟨hline, ?_⟩
  rcases hfirst with hfirst | ⟨rfl, -⟩
  · obtain ⟨⟨word', hword', gap'', rfl, hne', hblank'⟩, -, -⟩ :=
      Pattern.fits_wordThenBlanks_iff.1 hfirst
    have hopen' : (wordThenBlanks ["using"]).Opens isNameStart := Pattern.opens_wordThenBlanks rfl
    obtain ⟨c, tail, hchars, hc⟩ := hopen' _ _ _ _ hsecond
    refine ⟨gap, word', gap'', c, tail ++ third ++ rest, ?_, hgap, ?_, hne', hblank', hc⟩
    · rw [hchars]
      simp
    · rw [List.mem_singleton.1 hword']
      exact List.mem_cons_self
  · obtain ⟨c, tail, hchars, hc⟩ := hopen _ _ _ _ _ hthird
    refine ⟨gap, word, gap', c, tail ++ rest, ?_, hgap, ?_, hne, hblank, hc⟩
    · rw [hchars]
      simp
    · rw [List.mem_singleton.1 hword]
      exact List.mem_cons_of_mem _ List.mem_cons_self

theorem fits_wordEdge_wordThenBlanks {ws : List String} {p : Pattern}
    (hws : (ws.all fun w => w.toList.head?.any isNameStart) = true) (hp : p.Opens isNameStart)
    (h : (Pattern.andThen .wordEdge (.andThen (wordThenBlanks ws) p)).Fits before piece rest
      pieces) :
    ∃ w ∈ ws, ∃ gap c cs, piece = w.toList ++ (gap ++ c :: cs) ∧ gap ≠ [] ∧
      (∀ d ∈ gap, isBlank d = true) ∧ isNameStart c = true ∧ before.any isWord = false ∧
      p.Fits (lastOr before (w.toList ++ gap)) (c :: cs) rest pieces := by
  obtain ⟨_, _, _, pieces', rfl, rfl, ⟨rfl, rfl, hedge⟩, first, second, _, pieces'', rfl, rfl,
    hfirst, hsecond⟩ := h
  obtain ⟨c, cs, rfl, hc⟩ := hp _ _ _ _ hsecond
  obtain ⟨d, tail, hchars, hd⟩ := Pattern.opens_wordThenBlanks hws _ _ _ _ hfirst
  obtain ⟨⟨w, hw, gap, rfl, hne, hblank⟩, -, rfl⟩ := Pattern.fits_wordThenBlanks_iff.1 hfirst
  refine ⟨w, hw, gap, c, cs, by simp, hne, hblank, hc, ?_, by simpa [lastOr_nil] using hsecond⟩
  rw [hchars] at hedge
  simpa [isWord_of_isNameStart hd] using hedge

end Pieces

/-! ## Texts without directives -/

theorem directives_eq_empty {cs : List Char} (hline : '\n' ∉ cs)
    (h : ∀ gap word gap' c rest, ¬ OpensDirective cs gap word gap' c rest) :
    directives cs = .empty := by
  have hnone : directivePattern.findAll cs = [] := by
    refine Pattern.findAll_eq_nil_iff.2 fun front piece rest pieces hoccurs => ?_
    obtain ⟨hstart, gap, word, gap', c, tail, hopens⟩ := fits_directivePattern hoccurs.fits
    have hfront : front = [] := by
      rcases List.eq_nil_or_concat front with rfl | ⟨init, d, rfl⟩
      · rfl
      · rw [List.concat_eq_append, lastOr_append, lastOr_singleton] at hstart
        have hd : d = '\n' := by simpa using hstart
        refine absurd ?_ hline
        rw [hoccurs.text, hd]
        simp
    have htext := hoccurs.text
    rw [hfront, List.nil_append] at htext
    rw [← htext] at hopens
    exact h _ _ _ _ _ hopens
  rw [directives, hnone]
  rfl

theorem withoutByteOrderMark_eq_self {cs : List Char} (h : cs.head? ≠ some '\ufeff') :
    withoutByteOrderMark cs = cs := by
  unfold withoutByteOrderMark
  split
  · exact absurd rfl h
  · rfl

theorem mem_slot_classify_iff {config : ExtractionConfig} {text : List Char} {rule : Rule}
    {name : String} (h : directives (withoutByteOrderMark text) = .empty) :
    name ∈ (classify config text).slot rule ↔
      config.isEnabled rule = true ∧ name ∈ rule.namesIn (withoutByteOrderMark text) := by
  have hself : withExpansion .empty = fun name => [name] := rfl
  simp only [slot_classify, h, ite_self, hself, List.flatMap_singleton']
  by_cases henabled : config.isEnabled rule = true
  · rw [if_pos henabled, NameSet.mem_ofList]
    exact (and_iff_right henabled).symm
  · rw [if_neg henabled]
    exact iff_of_false List.not_mem_nil fun hboth => henabled hboth.1

/-! ## Words in front of names -/

/-- The words at the end of tokens behind which a name begins. -/
def openingWords : List (List Char) → List Char → List (List Char)
  | [], _ => []
  | token :: tokens, last =>
    if (spaced tokens last).head?.any isNameStart then
      lastWord token :: openingWords tokens last
    else openingWords tokens last

theorem openingWords_append_subset (tokens more : List (List Char)) (last : List Char) :
    openingWords more last ⊆ openingWords (tokens ++ more) last := by
  induction tokens with
  | nil => exact fun _ h => h
  | cons token tokens ih =>
    intro word hword
    rw [List.cons_append, openingWords]
    split
    · exact List.mem_cons_of_mem _ (ih hword)
    · exact ih hword

section Tokens
variable {tokens : List (List Char)} {last : List Char}

/-- A word of its own in front of white space and the start of a name. -/
theorem mem_openingWords_of_word {front word gap cs : List Char} {c : Char} (h : AreTokens tokens)
    (hlast : ∀ c ∈ last, isBlank c = false)
    (htext : spaced tokens last = front ++ (word ++ (gap ++ c :: cs))) (hword : word ≠ [])
    (hword' : ∀ c ∈ word, isWord c = true) (hfront : ∀ c ∈ front.getLast?, isWord c = false)
    (hgap : gap ≠ []) (hblank : ∀ c ∈ gap, isBlank c = true) (hc : isNameStart c = true) :
    word ∈ openingWords tokens last := by
  have hfree : ∀ c ∈ word, isBlank c = false := fun c hc => isBlank_eq_false_of_isWord (hword' c hc)
  have hstart : ∀ d ∈ (c :: cs).head?, isBlank d = false := fun d hd =>
    Option.some.inj hd ▸ isBlank_eq_false_of_isWord (isWord_of_isNameStart hc)
  obtain ⟨before, start, after, rfl, rfl, hafter⟩ :=
    exists_token_of_spaced h hlast htext hword hfree hgap hblank hstart
  refine openingWords_append_subset before _ last ?_
  have hends : lastWord (start ++ word) = word :=
    lastWord_append hword' (forall_getLast?_of_append hfront)
  have hname : (spaced after last).head?.any isNameStart = true := by
    rw [← hafter]
    exact hc
  rw [openingWords, if_pos hname, hends]
  exact List.mem_cons_self

theorem exists_openingWord_of_occurs {ws : List String} {p : Pattern} {front piece rest : List Char}
    {pieces : List (Nat × List Char)} (h : AreTokens tokens)
    (hlast : ∀ c ∈ last, isBlank c = false) (hws : ∀ w ∈ ws, IsName w.toList)
    (hp : p.Opens isNameStart)
    (hoccurs : (Pattern.andThen .wordEdge (.andThen (wordThenBlanks ws) p)).Occurs none
      (spaced tokens last) front piece rest pieces) :
    ∃ w ∈ ws, w.toList ∈ openingWords tokens last := by
  have hstarts : (ws.all fun w => w.toList.head?.any isNameStart) = true := by
    refine List.all_eq_true.2 fun w hw => ?_
    obtain ⟨c, tail, hchars, hc, -⟩ := hws w hw
    rw [hchars]
    exact hc
  obtain ⟨w, hw, gap, c, cs, rfl, hgap, hblank, hc, hedge, -⟩ :=
    fits_wordEdge_wordThenBlanks hstarts hp hoccurs.fits
  have htext : spaced tokens last = front ++ (w.toList ++ (gap ++ c :: (cs ++ rest))) := by
    rw [hoccurs.text]
    simp
  refine ⟨w, hw, mem_openingWords_of_word h hlast htext (hws w hw).ne_nil (hws w hw).isWord_of_mem
    (fun d hd => ?_) hgap hblank hc⟩
  rw [lastOr, Option.mem_def.1 hd] at hedge
  exact hedge

theorem openingWords_subset : openingWords tokens last ⊆ tokens.map lastWord := by
  induction tokens with
  | nil => exact List.Subset.refl _
  | cons token tokens ih =>
    rw [openingWords, List.map_cons]
    split
    · exact List.cons_subset_cons _ ih
    · exact List.subset_cons_of_subset _ ih

/-- A directive is opened by the first token. -/
theorem exists_tokens_of_opensDirective {gap gap' rest : List Char} {word : String} {c : Char}
    (h : AreTokens tokens) (hlast : ∀ c ∈ last, isBlank c = false)
    (hopens : OpensDirective (spaced tokens last) gap word gap' c rest) :
    ∃ after, tokens = word.toList :: after ∧ c :: rest = spaced after last := by
  have hwords : ∀ w ∈ ["global", "using"], w.toList ≠ [] ∧ ∀ c ∈ w.toList, isBlank c = false := by
    simp [isBlank]
  obtain ⟨hne, hword⟩ := hwords word hopens.word
  have hstart : ∀ d ∈ (c :: rest).head?, isBlank d = false := fun d hd =>
    Option.some.inj hd ▸ isBlank_eq_false_of_isWord (isWord_of_isNameStart hopens.starts)
  obtain ⟨before, start, after, rfl, rfl, hafter⟩ := exists_token_of_spaced h hlast hopens.text hne
    hword hopens.apart hopens.blank' hstart
  -- In front of the word there is white space only, but tokens hold none.
  have hgap := hopens.blank
  cases before with
  | nil =>
    cases start with
    | nil => exact ⟨after, rfl, hafter⟩
    | cons d start =>
      have hd := (h _ List.mem_cons_self).2 d List.mem_cons_self
      rw [hgap d List.mem_cons_self] at hd
      cases hd
  | cons token before =>
    obtain ⟨hne', htoken⟩ := h token List.mem_cons_self
    obtain ⟨d, tail, rfl⟩ := List.exists_cons_of_ne_nil hne'
    have hd := htoken d List.mem_cons_self
    rw [hgap d (by simp [spaced])] at hd
    cases hd

end Tokens

theorem lastWord_of_isName {cs : List Char} (h : IsName cs) : lastWord cs = cs := by
  have hends := @lastWord_append [] cs h.isWord_of_mem (by simp)
  rwa [List.nil_append] at hends

end RefAtlas.Reference
