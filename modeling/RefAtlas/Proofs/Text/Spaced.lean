import RefAtlas.Proofs.Pattern.Fits
import RefAtlas.Proofs.Text.Trimmed

/-! # Tokens with spaces between them

* `Text.spaced`: a text made of tokens, each with a space behind it, and a last token.
* `Text.lastWord`: the word characters at the end of a text.
* `Text.exists_token_of_spaced`: every word with white space behind it ends a token.
* `Text.append_eq_append_of_run`: a text has one run of a class at its end.
-/

namespace RefAtlas.Text
set_option autoImplicit false

def spaced (tokens : List (List Char)) (last : List Char) : List Char :=
  tokens.flatMap (· ++ [' ']) ++ last

theorem spaced_cons (token : List Char) (tokens : List (List Char)) (last : List Char) :
    spaced (token :: tokens) last = token ++ ' ' :: spaced tokens last := by
  simp [spaced]

theorem spaced_append (tokens more : List (List Char)) (last : List Char) :
    spaced (tokens ++ more) last = spaced tokens (spaced more last) := by
  simp [spaced]

theorem spaced_last_append (tokens : List (List Char)) (first second : List Char) :
    spaced tokens (first ++ second) = spaced tokens first ++ second := by
  simp [spaced]

theorem forall_mem_spaced {p : Char → Prop} {tokens : List (List Char)} {last : List Char}
    (h : ∀ t ∈ tokens, ∀ c ∈ t, p c) (hspace : p ' ') (hlast : ∀ c ∈ last, p c) :
    ∀ c ∈ spaced tokens last, p c := by
  intro c hc
  rcases List.mem_append.1 hc with hc | hc
  · obtain ⟨t, ht, hc⟩ := List.mem_flatMap.1 hc
    rcases List.mem_append.1 hc with hc | hc
    · exact h t ht c hc
    · exact List.mem_singleton.1 hc ▸ hspace
  · exact hlast c hc

/-! ## Runs at the end -/

section Last
variable {p : Char → Prop} {before cs : List Char}

theorem forall_getLast?_append (hne : cs ≠ []) (h : ∀ c ∈ cs, p c) :
    ∀ c ∈ (before ++ cs).getLast?, p c := by
  intro c hc
  rw [List.getLast?_append, List.getLast?_eq_some_getLast hne, Option.some_or] at hc
  exact h c (Option.some.inj hc ▸ List.getLast_mem hne)

theorem forall_getLast?_of_append (h : ∀ c ∈ (before ++ cs).getLast?, p c) :
    ∀ c ∈ cs.getLast?, p c := by
  intro c hc
  refine h c ?_
  rw [List.getLast?_append, Option.mem_def.1 hc]
  rfl

end Last

/-- A text is cut in one way in front of a run of a class at its end. -/
theorem append_eq_append_of_run {p : Char → Bool} {front run front' run' : List Char}
    (h : front ++ run = front' ++ run') (hrun : ∀ c ∈ run, p c = true)
    (hrun' : ∀ c ∈ run', p c = true) (hfront : ∀ c ∈ front.getLast?, p c = false)
    (hfront' : ∀ c ∈ front'.getLast?, p c = false) : front = front' ∧ run = run' := by
  have hcut {front run : List Char} (hrun : ∀ c ∈ run, p c = true)
      (hfront : ∀ c ∈ front.getLast?, p c = false) :
      (front ++ run).reverse.takeWhile p = run.reverse ∧
        (front ++ run).reverse.dropWhile p = front.reverse := by
    rw [List.reverse_append]
    exact takeWhile_dropWhile_of_run (fun c hc => hrun c (List.mem_reverse.1 hc))
      (by rwa [List.head?_reverse])
  have hcuts := hcut hrun hfront
  rw [h, (hcut hrun' hfront').1, (hcut hrun' hfront').2] at hcuts
  exact ⟨(List.reverse_inj.1 hcuts.2).symm, (List.reverse_inj.1 hcuts.1).symm⟩

/-- A text is cut in one way behind a run of a class at its start. -/
theorem append_eq_append_of_front_run {p : Char → Bool} {run rest run' rest' : List Char}
    (h : run ++ rest = run' ++ rest') (hrun : ∀ c ∈ run, p c = true)
    (hrun' : ∀ c ∈ run', p c = true) (hrest : ∀ c ∈ rest.head?, p c = false)
    (hrest' : ∀ c ∈ rest'.head?, p c = false) : run = run' ∧ rest = rest' := by
  have hcut := takeWhile_dropWhile_of_run hrun hrest
  rw [h, (takeWhile_dropWhile_of_run hrun' hrest').1,
    (takeWhile_dropWhile_of_run hrun' hrest').2] at hcut
  exact ⟨hcut.1.symm, hcut.2.symm⟩

def lastWord (cs : List Char) : List Char := (cs.reverse.takeWhile isWord).reverse

theorem lastWord_append {front word : List Char} (hword : ∀ c ∈ word, isWord c = true)
    (hfront : ∀ c ∈ front.getLast?, isWord c = false) : lastWord (front ++ word) = word := by
  have hcut := takeWhile_dropWhile_of_run (fun c hc => hword c (List.mem_reverse.1 hc))
    (show ∀ c ∈ front.reverse.head?, isWord c = false by rwa [List.head?_reverse])
  rw [lastWord, List.reverse_append, hcut.1, List.reverse_reverse]

/-! ## Words in front of white space -/

def AreTokens (tokens : List (List Char)) : Prop :=
  ∀ t ∈ tokens, t ≠ [] ∧ ∀ c ∈ t, isBlank c = false

theorem head?_spaced_not_blank {tokens : List (List Char)} {last : List Char}
    (h : AreTokens tokens) (hlast : ∀ c ∈ last, isBlank c = false) :
    ∀ c ∈ (spaced tokens last).head?, isBlank c = false := by
  intro c hc
  cases tokens with
  | nil => exact hlast c (List.mem_of_mem_head? hc)
  | cons t tokens =>
    obtain ⟨hne, hfree⟩ := h t List.mem_cons_self
    obtain ⟨d, t', rfl⟩ := List.exists_cons_of_ne_nil hne
    rw [spaced_cons] at hc
    exact Option.some.inj hc ▸ hfree d List.mem_cons_self

/-- Two words with white space behind them at the start of a text are one. -/
theorem eq_of_word_gap {word word' gap gap' rest rest' : List Char}
    (h : word ++ (gap ++ rest) = word' ++ (gap' ++ rest'))
    (hword : ∀ c ∈ word, isBlank c = false) (hword' : ∀ c ∈ word', isBlank c = false)
    (hgap : gap ≠ []) (hgap' : gap' ≠ []) (hblank : ∀ c ∈ gap, isBlank c = true)
    (hblank' : ∀ c ∈ gap', isBlank c = true) (hrest : ∀ c ∈ rest.head?, isBlank c = false)
    (hrest' : ∀ c ∈ rest'.head?, isBlank c = false) : word = word' ∧ rest = rest' := by
  have hfree {word : List Char} (hword : ∀ c ∈ word, isBlank c = false) :
      ∀ c ∈ word, (!isBlank c) = true := fun c hc => by simp [hword c hc]
  have hstop {gap rest : List Char} (hgap : gap ≠ []) (hblank : ∀ c ∈ gap, isBlank c = true) :
      ∀ c ∈ (gap ++ rest).head?, (!isBlank c) = false := by
    obtain ⟨d, gap, rfl⟩ := List.exists_cons_of_ne_nil hgap
    exact fun c hc => by simp [← Option.some.inj hc, hblank d List.mem_cons_self]
  obtain ⟨heq, hbehind⟩ := append_eq_append_of_front_run h (hfree hword) (hfree hword')
    (hstop hgap hblank) (hstop hgap' hblank')
  exact ⟨heq, (append_eq_append_of_front_run hbehind hblank hblank' hrest hrest').2⟩

/-- A word with white space behind it ends one of the tokens, and the next token follows. -/
theorem exists_token_of_spaced {tokens : List (List Char)} {last front word gap rest : List Char}
    (h : AreTokens tokens) (hlast : ∀ c ∈ last, isBlank c = false)
    (htext : spaced tokens last = front ++ (word ++ (gap ++ rest)))
    (hword : word ≠ []) (hword' : ∀ c ∈ word, isBlank c = false) (hgap : gap ≠ [])
    (hblank : ∀ c ∈ gap, isBlank c = true) (hrest : ∀ c ∈ rest.head?, isBlank c = false) :
    ∃ before start after, tokens = before ++ (start ++ word) :: after ∧
      front = spaced before start ∧ rest = spaced after last := by
  induction tokens generalizing front with
  | nil =>
    obtain ⟨c, gap, rfl⟩ := List.exists_cons_of_ne_nil hgap
    have hmem : c ∈ spaced [] last := by simp [htext]
    rw [spaced, List.flatMap_nil, List.nil_append] at hmem
    exact absurd (hlast c hmem) (by simp [hblank c List.mem_cons_self])
  | cons t tokens ih =>
    obtain ⟨-, htoken⟩ := h t List.mem_cons_self
    have htokens : AreTokens tokens := fun t' ht' => h t' (List.mem_cons_of_mem t ht')
    rw [spaced_cons] at htext
    rcases List.append_eq_append_iff.1 htext with ⟨front', rfl, hbehind⟩ | ⟨word', rfl, hbehind⟩
    · -- The word stands behind the first token.
      cases front' with
      | nil =>
        obtain ⟨c, word, rfl⟩ := List.exists_cons_of_ne_nil hword
        rw [List.nil_append, List.cons_append] at hbehind
        exact absurd (hword' c List.mem_cons_self) (by simp [← (List.cons.inj hbehind).1, isBlank])
      | cons c front' =>
        obtain ⟨rfl, htext'⟩ := List.cons.inj hbehind
        obtain ⟨before, start, after, rfl, rfl, hafter⟩ := ih htokens htext'
        exact ⟨t :: before, start, after, rfl, (spaced_cons t before start).symm, hafter⟩
    · -- The word ends the first token.
      have hspace : ∀ c ∈ [' '], isBlank c = true := List.forall_mem_singleton.2 rfl
      have htext' : word ++ (gap ++ rest) = word' ++ ([' '] ++ spaced tokens last) := hbehind
      obtain ⟨rfl, rfl⟩ := eq_of_word_gap htext' hword'
        (fun c hc => htoken c (List.mem_append_right front hc)) hgap (List.cons_ne_nil _ _) hblank
        hspace hrest (head?_spaced_not_blank htokens hlast)
      exact ⟨[], front, tokens, rfl, rfl, rfl⟩

end RefAtlas.Text
