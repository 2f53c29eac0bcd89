import RefAtlas.Proofs.Reference.DeclaredTypes

/-! # The type of a value made with new, and a base

* `pieces_of_occurs_creation`, `occurs_creation`: a value is found if its type is joined by points
  only.
* `pieces_of_occurs_base`, `occurs_base`: a base is found with all joints, unless one of its segments
  is the word for constraints.
-/

namespace RefAtlas.Reference
open RefAtlas.Text
open RefAtlas.Pattern (IsName IsDottedName)
set_option autoImplicit false

/-! ## Values made with new -/

section Creation
variable {name : Identifier} {q : QualifiedName}

/-- A dotted name in front of a mark is a whole name, if behind it there is no part of a name. -/
theorem isPointed_of_stops {type gap rest : List Char} {ending : Char}
    (htext : type ++ (gap ++ ending :: rest) = q.chars ++ ['(', ')']) (hdotted : IsDottedName type)
    (hgap : ∀ c ∈ gap, isBlank c = true) (hends : isNamePart ending = false)
    (hstops : ∀ c ∈ (gap ++ ending :: rest).head?, Pattern.isDotted c = false) :
    q.IsPointed ∧ type = q.chars := by
  obtain ⟨c, tail, rfl, hc, htail⟩ := hdotted
  have htype : ∀ d ∈ c :: tail, Pattern.isDotted d = true :=
    List.forall_mem_cons.2 ⟨by rw [Pattern.isDotted, isWord_of_isNameStart hc, Bool.true_or], htail⟩
  have hrun : ∀ d ∈ q.chars.takeWhile Pattern.isDotted, Pattern.isDotted d = true :=
    fun d hd => List.mem_takeWhile_imp hd
  have hsplit : q.chars.takeWhile Pattern.isDotted ++ q.chars.dropWhile Pattern.isDotted = q.chars :=
    List.takeWhile_append_dropWhile
  cases hbehind : q.chars.dropWhile Pattern.isDotted with
  | nil =>
    rw [hbehind, List.append_nil] at hsplit
    obtain ⟨heq, -⟩ := append_eq_append_of_front_run htext htype (hsplit ▸ hrun) hstops
      (by simp; decide)
    exact ⟨q.isPointed_iff.2 (heq ▸ ⟨c, tail, rfl, hc, htail⟩), heq⟩
  | cons d ds =>
    -- The dotted part ends at a colon, which is no white space and no mark.
    rw [← hsplit, hbehind, List.append_assoc] at htext
    have hd : Pattern.isDotted d = false := head?_dropWhile_of_class _ q.chars d (by rw [hbehind]; rfl)
    have hpart : isNamePart d = true := q.isNamePart_of_mem (by rw [← hsplit, hbehind]; simp)
    obtain ⟨-, heq⟩ := append_eq_append_of_front_run htext htype hrun hstops
      fun e he => Option.some.inj he ▸ hd
    cases gap with
    | nil => rw [(List.cons.inj heq).1, hpart] at hends; cases hends
    | cons e gap =>
      have he := hgap e List.mem_cons_self
      rw [(List.cons.inj heq).1, isBlank_eq_false_of_isNamePart hpart] at he
      cases he

theorem pieces_of_occurs_creation {front piece rest : List Char} {pieces : List (Nat × List Char)}
    (hoccurs : instantiationPattern.Occurs none (Declaration.chars (.creation name) q.chars)
      front piece rest pieces) : q.IsPointed ∧ pieces = [(1, q.chars)] := by
  obtain ⟨name', gap, gap', gap'', type, gap₃, ending, h⟩ :=
    fits_instantiationPattern hoccurs.fits (Declaration.angle_not_mem_piece hoccurs)
  have htext : (name.chars ++ [' ']) ++ '=' :: ([' '] ++ 'n' :: 'e' :: 'w' :: ([' '] ++
        (q.chars ++ ['(', ')']))) =
      (front ++ (name' ++ gap)) ++ '=' :: (gap' ++ 'n' :: 'e' :: 'w' :: (gap'' ++ (type ++
        (gap₃ ++ ending :: rest)))) := by
    have hoccurs' := hoccurs.text
    rw [h.text, Declaration.chars, Declaration.tokens, Declaration.last, spaced_cons, spaced_cons,
      spaced_cons] at hoccurs'
    simpa [spaced] using hoccurs'
  have hfree : '=' ∉ name.chars ++ [' '] := by
    have hne : '=' ∉ name.chars := fun hmem => absurd (name.isWord_of_mem hmem) (by decide)
    simp [hne]
  have hbehind : '=' ∉ [' '] ++ 'n' :: 'e' :: 'w' :: ([' '] ++ (q.chars ++ ['(', ')'])) := by
    have hne : '=' ∉ q.chars := fun hmem => absurd (q.isNamePart_of_mem hmem) (by decide)
    simp [hne]
  obtain ⟨-, -, htext'⟩ := (List.append_cons_inj_of_notMem hfree hbehind).1 htext
  -- The word new stands between two runs of white space.
  have hspace : ∀ c ∈ [' '], isBlank c = true := List.forall_mem_singleton.2 rfl
  obtain ⟨-, hnew⟩ := append_eq_append_of_front_run htext' hspace h.blank' (by simp [isBlank])
    (by simp [isBlank])
  have hgap : [' '] ++ (q.chars ++ ['(', ')']) = gap'' ++ (type ++ (gap₃ ++ ending :: rest)) :=
    (List.cons.inj (List.cons.inj (List.cons.inj hnew).2).2).2
  obtain ⟨c, tail, htype, hc, -⟩ := id h.dotted
  obtain ⟨-, hend⟩ := append_eq_append_of_front_run hgap hspace h.blank''
    (q.head?_append_not_blank _) fun d hd => by
      rw [htype] at hd
      exact Option.some.inj hd ▸ isBlank_eq_false_of_isWord (isWord_of_isNameStart hc)
  have hmark : ∀ c ∈ ['(', '[', '\x7b'], isNamePart c = false := by simp; decide
  obtain ⟨hpointed, rfl⟩ := isPointed_of_stops hend.symm h.dotted h.blank₃ (hmark ending h.ends)
    h.stops
  exact ⟨hpointed, h.pieces⟩

theorem occurs_creation (hpointed : q.IsPointed) : ∃ piece rest pieces,
    instantiationPattern.Occurs none (Declaration.chars (.creation name) q.chars)
      [] piece rest pieces := by
  have htext : Declaration.chars (.creation name) q.chars =
      ([] ++ (name.chars ++ ([' '] ++ (['='] ++ ([' '] ++ ("new".toList ++ ([' '] ++
        ((q.chars ++ []) ++ ([] ++ ['(']))))))))) ++ [')'] := by
    rw [Declaration.chars, Declaration.tokens, Declaration.last, spaced_cons, spaced_cons,
      spaced_cons]
    simp [spaced]
  refine ⟨_, [')'], [(1, q.chars ++ [])], htext.trans (List.nil_append _).symm, ?_⟩
  refine Pattern.fits_andThen ⟨rfl, rfl, ?_⟩ ?_
  · simp [lastOr, Identifier.chars, isWord_of_isNameStart name.starts]
  refine Pattern.fits_andThen
    (Pattern.fits_identifier_iff.2 ⟨name.isName, by simp; decide, rfl⟩) ?_
  refine Pattern.fits_andThen (Pattern.fits_blanks_space (by simp [isBlank])) ?_
  refine Pattern.fits_andThen ⟨rfl, rfl⟩ ?_
  refine Pattern.fits_andThen (Pattern.fits_blanks_space (by simp [isBlank])) ?_
  refine Pattern.fits_andThen ⟨rfl, rfl⟩ ?_
  refine Pattern.fits_andThen (Pattern.fits_blanks1_space ?_) ?_
  · rw [List.append_assoc, List.append_assoc]
    exact q.head?_append_not_blank _
  refine Pattern.fits_capture_of_fits (Pattern.fits_andThen
    (Pattern.fits_dottedName_iff.2 ⟨q.isPointed_iff.1 hpointed, by simp; decide, rfl⟩)
    (.inr ⟨rfl, rfl⟩)) ?_
  exact Pattern.fits_andThen (Pattern.fits_blanks_nil (by simp [isBlank])) ⟨⟨'(', rfl, rfl⟩, rfl⟩

end Creation

/-! ## Lists of bases -/

section Base
variable {kind : String} {known : kind ∈ kindWords} {name : Identifier} {q : QualifiedName}

/-- What is read as a list of bases is the name, and white space behind it. -/
theorem bases_eq_of_ends {bases gap ending rest : List Char} {before : Option Char}
    (hsegments : constraintWord ∉ q.segments)
    (htext : q.chars ++ [' ', '\x7b'] = bases ++ (gap ++ (ending ++ rest)))
    (hgap : ∀ c ∈ gap, isBlank c = true)
    (hends : EndsBases (lastOr before (bases ++ gap)) ending rest) :
    ∃ gap', bases = q.chars ++ gap' ∧ ∀ c ∈ gap', isBlank c = true := by
  rw [← List.append_assoc] at htext
  cases hends with
  | @mark c _ hc =>
    have hmarks : ∀ c ∈ ['\x7b', ';'], isNamePart c = false ∧ c ≠ ' ' := by simp; decide
    obtain ⟨hpart, hspace⟩ := hmarks c hc
    have hfree : c ∉ q.chars ++ [' '] := by
      have hne : c ∉ q.chars := fun hmem => by simp [q.isNamePart_of_mem hmem] at hpart
      simp [hne, hspace]
    have htext' : (q.chars ++ [' ']) ++ '\x7b' :: [] = (bases ++ gap) ++ c :: rest := by
      simpa using htext
    obtain ⟨hbases, -, -⟩ := (List.append_cons_inj_of_notMem hfree List.not_mem_nil).1 htext'
    rcases List.append_eq_append_iff.1 hbases with ⟨gap', rfl, hgaps⟩ | ⟨gap', hchars, rfl⟩
    · refine ⟨gap', rfl, fun d hd => ?_⟩
      have hmem : d ∈ [' '] := hgaps ▸ List.mem_append_left gap hd
      exact List.mem_singleton.1 hmem ▸ rfl
    · have hnil : gap' = [] := List.eq_nil_iff_forall_not_mem.2 fun d hd => by
        have hd' := q.isBlank_eq_false_of_mem (hchars ▸ List.mem_append_right bases hd)
        rw [hgap d (List.mem_append_left _ hd)] at hd'
        cases hd'
      rw [hnil, List.append_nil] at hchars
      exact ⟨[], by rw [hchars, List.append_nil], List.forall_mem_nil _⟩
  | constraint hbefore hrest =>
    refine absurd (q.mem_segments_of_word htext ?_ (List.cons_ne_nil _ _) ?_ (fun c hc => ?_) hrest)
      hsegments
    · simp; decide
    · simp [constraintWord]; decide
    · refine hbefore c ?_
      rw [lastOr, Option.mem_def.1 hc]
      rfl

/-- A name begins behind the first token only, if a word is at the end of the token in front of it. -/
theorem after_eq_of_tokens {before after : List (List Char)} {start word : List Char}
    (htokens : [kind.toList, name.chars, [':'], q.chars] = before ++ (start ++ word) :: after)
    (hword : IsName word) (hstart : ∀ c ∈ (spaced after ['\x7b']).head?, isNameStart c = true) :
    after = [name.chars, [':'], q.chars] := by
  rcases before with _ | ⟨_, _ | ⟨_, _ | ⟨_, before⟩⟩⟩
  · exact (List.cons.inj htokens).2.symm
  · have hbehind : after = [[':'], q.chars] := (List.cons.inj (List.cons.inj htokens).2).2.symm
    rw [hbehind, spaced_cons] at hstart
    exact absurd (hstart ':' rfl) (by decide)
  · have hcolon : [':'] = start ++ word :=
      (List.cons.inj (List.cons.inj (List.cons.inj htokens).2).2).1
    have hmem : ':' ∈ word := by
      obtain ⟨c, tail, hchars, -, -⟩ := id hword
      have hc : c ∈ [':'] := hcolon ▸ List.mem_append_right start (hchars ▸ List.mem_cons_self)
      exact List.mem_singleton.1 hc ▸ hchars ▸ List.mem_cons_self
    exact absurd (hword.isWord_of_mem ':' hmem) (by decide)
  · have hbehind : after = [] := by
      have hlength := congrArg List.length htokens
      simp only [List.length_append, List.length_cons, List.length_nil] at hlength
      exact List.eq_nil_of_length_eq_zero (by omega)
    rw [hbehind] at hstart
    exact absurd (hstart '\x7b' rfl) (by decide)

/-- What stands behind the name, a colon and white space. -/
theorem behind_colon_eq {name' gap gap' behind behind' : List Char}
    (htext : name' ++ (gap ++ ':' :: (gap' ++ behind)) =
      name.chars ++ ([' '] ++ ':' :: ([' '] ++ behind')))
    (hname : IsName name') (hgap : ∀ c ∈ gap, isBlank c = true)
    (hgap' : ∀ c ∈ gap', isBlank c = true) (hbehind : ∀ c ∈ behind.head?, isBlank c = false)
    (hbehind' : ∀ c ∈ behind'.head?, isBlank c = false) : behind = behind' := by
  have hspace : ∀ c ∈ [' '], isBlank c = true := List.forall_mem_singleton.2 rfl
  have hidentifier : ∀ c ∈ name.chars, isWord c = true := fun _ => name.isWord_of_mem
  have hends : ∀ c ∈ (gap ++ ':' :: (gap' ++ behind)).head?, isWord c = false := by
    cases gap with
    | nil => simp; decide
    | cons d gap =>
      exact fun c hc =>
        isWord_eq_false_of_isBlank (hgap c (Option.some.inj hc ▸ List.mem_cons_self))
  obtain ⟨-, hcolon⟩ := append_eq_append_of_front_run htext hname.isWord_of_mem hidentifier hends
    (by simp; decide)
  obtain ⟨-, hmark⟩ := append_eq_append_of_front_run hcolon hgap hspace (by simp [isBlank])
    (by simp [isBlank])
  exact (append_eq_append_of_front_run (List.cons.inj hmark).2 hgap' hspace hbehind hbehind').2

theorem pieces_of_occurs_base {front piece rest : List Char} {pieces : List (Nat × List Char)}
    (hsegments : constraintWord ∉ q.segments)
    (hoccurs : inheritancePattern.Occurs none (Declaration.chars (.base kind known name) q.chars)
      front piece rest pieces) :
    ∃ gap, pieces = [(1, q.chars ++ gap)] ∧ ∀ c ∈ gap, isBlank c = true := by
  obtain ⟨kind', gap, name', gap', gap'', bases, gap₃, ending, h⟩ :=
    fits_inheritancePattern hoccurs.fits (Declaration.angle_not_mem_piece hoccurs)
  have hkind := isName_of_mem_kindWords kind' h.known
  have htext : spaced [kind.toList, name.chars, [':'], q.chars] ['\x7b'] =
      front ++ (kind'.toList ++ (gap ++ (name' ++ (gap' ++ ':' :: (gap'' ++ (bases ++
        (gap₃ ++ (ending ++ rest)))))))) := by
    refine hoccurs.text.trans ?_
    rw [h.text]
    simp
  obtain ⟨c, tail, hname', hc, -⟩ := id h.named
  have hstart : ∀ d ∈ (name' ++ (gap' ++ ':' :: (gap'' ++ (bases ++ (gap₃ ++
      (ending ++ rest)))))).head?, isNameStart d = true := by
    rw [hname']
    exact fun d hd => Option.some.inj hd ▸ hc
  obtain ⟨before, start, after, htokens, -, hafter⟩ := exists_token_of_spaced
    (Declaration.areTokens (.base kind known name) q)
    (Declaration.isBlank_last (.base kind known name) q) htext hkind.ne_nil
    (fun c hc => isBlank_eq_false_of_isWord (hkind.isWord_of_mem c hc)) h.apart h.blank
    (fun d hd => isBlank_eq_false_of_isWord (isWord_of_isNameStart (hstart d hd)))
  have htail : spaced [name.chars, [':'], q.chars] (Declaration.last q.chars (.base kind known name)) =
      name.chars ++ ([' '] ++ ':' :: ([' '] ++ (q.chars ++ [' ', '\x7b']))) := by
    simp [spaced, Declaration.last]
  rw [after_eq_of_tokens htokens hkind (hafter ▸ hstart), htail] at hafter
  have hbases := behind_colon_eq hafter h.named h.blank' h.blank'' h.starts
    (q.head?_append_not_blank _)
  obtain ⟨gap₀, rfl, hgap₀⟩ := bases_eq_of_ends hsegments hbases.symm h.blank₃ (by
    have hends := h.ends
    rw [lastOr_append] at hends
    exact hends)
  refine ⟨gap₀, ?_, hgap₀⟩
  rcases h.found with ⟨hnil, -⟩ | ⟨-, hpieces⟩
  · exact absurd (List.append_eq_nil_iff.1 hnil).1 q.trimmed.ne_nil
  · exact hpieces

theorem occurs_base : ∃ piece rest pieces,
    inheritancePattern.Occurs none (Declaration.chars (.base kind known name) q.chars)
      [] piece rest pieces := by
  obtain ⟨c, tail, hchars, hc⟩ := q.trimmed.head
  have htext : Declaration.chars (.base kind known name) q.chars =
      [] ++ ((kind.toList ++ [' ']) ++ (name.chars ++ ([] ++ ([' '] ++ ([':'] ++ ([' '] ++
        (([c] ++ tail) ++ ([' '] ++ ['\x7b'])))))))) := by
    rw [Declaration.chars, Declaration.tokens, Declaration.last, hchars]
    simp [spaced]
  have hinside : ∀ d ∈ c :: tail, Pattern.outside ['\x7b', ';'] d = true := fun d hd => by
    have hpart : isNamePart d = true := q.isNamePart_of_mem (hchars ▸ hd)
    have hne : ∀ e, isNamePart e = false → d ≠ e := fun e he => ne_of_isNamePart hpart he
    simp [Pattern.outside, hne '\x7b' (by decide), hne ';' (by decide)]
  obtain ⟨hfirst, hothers⟩ := List.forall_mem_cons.1 hinside
  obtain ⟨k, ks, hkind, hk, -⟩ := isName_of_mem_kindWords kind known
  refine ⟨_, [], [(1, [c] ++ tail)], htext.trans (List.append_nil _).symm, ?_⟩
  refine Pattern.fits_andThen ⟨rfl, rfl, ?_⟩ ?_
  · simp [lastOr, hkind, isWord_of_isNameStart hk]
  refine Pattern.fits_andThen (fits_wordThenBlanks_of_mem known ?_) ?_
  · rw [List.append_assoc]
    exact name.head?_append_not_blank _
  refine Pattern.fits_andThen
    (Pattern.fits_identifier_iff.2 ⟨name.isName, by simp; decide, rfl⟩) ?_
  refine Pattern.fits_andThen (.inr ⟨rfl, rfl⟩) ?_
  refine Pattern.fits_andThen (Pattern.fits_blanks_space (by simp [isBlank])) ?_
  refine Pattern.fits_andThen ⟨rfl, rfl⟩ (.inl ?_)
  refine Pattern.fits_andThen (Pattern.fits_blanks_space (by simp [hc])) ?_
  refine Pattern.fits_capture_of_fits
    (Pattern.fits_andThen ⟨⟨c, hfirst, rfl⟩, rfl⟩ ⟨hothers, rfl⟩) ?_
  exact Pattern.fits_andThen (Pattern.fits_blanks_space (by simp [isBlank]))
    (.inr ⟨⟨'\x7b', rfl, rfl⟩, rfl⟩)

end Base

end RefAtlas.Reference
