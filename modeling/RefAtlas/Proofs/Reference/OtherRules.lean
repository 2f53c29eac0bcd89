import RefAtlas.Proofs.Reference.AttributeLines
import RefAtlas.Proofs.Reference.Declarations

/-! # One rule for one declaration

* `Declaration.namesIn_other`: in the text of a declaration, the other rules find nothing.
* `Declaration.mem_extract_iff`: so its references are what the rule for the place of its type finds.
-/

namespace RefAtlas.Reference
open RefAtlas.Text
open RefAtlas.Pattern (IsName)
set_option autoImplicit false

namespace Declaration
variable (d : Declaration) (q : QualifiedName)

/-! ## What the other rules find -/

section Others
variable {d : Declaration} {q : QualifiedName} {front piece rest : List Char}
  {pieces : List (Nat × List Char)}

theorem isKeyword_of_mem_words :
    ∀ w ∈ accessWords ++ (methodWords ++ kindWords), isKeyword w = true :=
  List.all_eq_true.1 (by decide)

theorem not_occurs_of_words {ws : List String} {p : Pattern} (hkept : isFiltered q.text = false)
    (hws : ∀ w ∈ ws, IsName w.toList ∧ isKeyword w = true) (hp : p.Opens isNameStart)
    (hnone : ∀ w ∈ ws, w ∉ d.words) :
    ¬ (Pattern.andThen .wordEdge (.andThen (wordThenBlanks ws) p)).Occurs none (d.chars q.chars)
      front piece rest pieces := by
  intro hoccurs
  obtain ⟨w, hw, hmem⟩ := exists_openingWord_of_occurs (d.areTokens q) (d.isBlank_last q)
    (fun w hw => (hws w hw).1) hp hoccurs
  exact d.not_mem_openingWords hkept (hws w hw).2 (hnone w hw) hmem

theorem not_mem_piece {p : Pattern} {c : Char}
    (hoccurs : p.Occurs none (d.chars q.chars) front piece rest pieces)
    (hpart : isNamePart c = false) (hspace : c ≠ ' ') (hmark : c ∉ d.marks) : c ∉ piece :=
  fun hmem => d.not_mem_chars q hpart hspace hmark (by
    rw [hoccurs.text]
    exact List.mem_append_right _ (List.mem_append_left _ hmem))

theorem angle_not_mem_piece {p : Pattern}
    (hoccurs : p.Occurs none (d.chars q.chars) front piece rest pieces) : '<' ∉ piece := by
  refine not_mem_piece hoccurs (by decide) (by decide) ?_
  cases d with
  | field opening name ending hends =>
    have hall : ∀ c ∈ [';', '=', ',', '\x7b'], '<' ≠ c := by simp
    exact List.mem_singleton.not.2 (hall ending hends)
  | _ => simp [marks]

theorem isPlain_piece {p : Pattern}
    (hoccurs : p.Occurs none (d.chars q.chars) front piece rest pieces)
    (hrule : d.rule ≠ .attributes) : IsPlain piece := by
  have hmarks : '[' ∉ d.marks ∧ '?' ∉ d.marks := by
    cases d with
    | field opening name ending hends =>
      have hall : ∀ c ∈ [';', '=', ',', '\x7b'], '[' ≠ c ∧ '?' ≠ c := by simp
      exact (hall ending hends).imp List.mem_singleton.not.2 List.mem_singleton.not.2
    | usage => exact absurd rfl hrule
    | _ => simp [marks]
  exact ⟨angle_not_mem_piece hoccurs, not_mem_piece hoccurs (by decide) (by decide) hmarks.1,
    not_mem_piece hoccurs (by decide) (by decide) hmarks.2⟩

theorem not_occurs_fields (hkept : isFiltered q.text = false) (hrule : d.rule ≠ .fields) :
    ¬ fieldPattern.Occurs none (d.chars q.chars) front piece rest pieces := by
  have hwords (hnone : ∀ w ∈ accessWords, w ∉ d.words) :
      ¬ fieldPattern.Occurs none (d.chars q.chars) front piece rest pieces :=
    not_occurs_of_words hkept (fun w hw => ⟨isName_of_mem_fieldWords w (List.mem_append_left _ hw),
      isKeyword_of_mem_words w (List.mem_append_left _ hw)⟩)
      ((Pattern.opens_wordThenBlanks rfl).star ((opens_typePattern.capture 1).andThen _)) hnone
  have hends (hplain : IsPlain piece) (hnone : ∀ c ∈ [';', '=', ',', '\x7b'], c ∉ d.marks) :
      ¬ fieldPattern.Occurs none (d.chars q.chars) front piece rest pieces := by
    intro hoccurs
    obtain ⟨_, _, _, _, _, ending, hfield⟩ := fits_fieldPattern hoccurs.fits hplain
    have hpart : ∀ c ∈ [';', '=', ',', '\x7b'], isNamePart c = false ∧ c ≠ ' ' := by
      simp; decide
    obtain ⟨hpart, hspace⟩ := hpart ending hfield.ends
    refine not_mem_piece hoccurs hpart hspace (hnone ending hfield.ends) ?_
    rw [hfield.text]
    simp
  intro hoccurs
  cases d with
  | field => exact hrule rfl
  | result => exact hends (isPlain_piece hoccurs (by simp [rule])) (by simp [marks]) hoccurs
  | parameter => exact hends (isPlain_piece hoccurs (by simp [rule])) (by simp [marks]) hoccurs
  | base => exact hwords (by simp [accessWords, words, kindWords]) hoccurs
  | creation => exact hwords (by simp [accessWords, words]) hoccurs
  | usage => exact hwords (by simp [accessWords, words]) hoccurs

theorem not_occurs_methods (hkept : isFiltered q.text = false) (hrule : d.rule ≠ .methods) :
    ¬ methodPattern.Occurs none (d.chars q.chars) front piece rest pieces := by
  have hwords (hnone : ∀ w ∈ methodWords, w ∉ d.words) :
      ¬ methodPattern.Occurs none (d.chars q.chars) front piece rest pieces :=
    not_occurs_of_words hkept (fun w hw => ⟨isName_of_mem_methodWords w (List.mem_append_left _ hw),
      isKeyword_of_mem_words w (List.mem_append_right _ (List.mem_append_left _ hw))⟩)
      ((Pattern.opens_wordThenBlanks rfl).star (((opens_typePattern.capture 1).andThen _).optional
        (Pattern.opens_identifier.andThen _))) hnone
  intro hoccurs
  cases d with
  | field opening name ending hends =>
    obtain ⟨_, _, _, _, _, _, hmethod⟩ :=
      fits_methodPattern hoccurs.fits (isPlain_piece hoccurs (by simp [rule]))
    have hne : ∀ c ∈ [';', '=', ',', '\x7b'], '(' ≠ c := by simp
    refine not_mem_piece hoccurs (c := '(') (by decide) (by decide)
      (List.mem_singleton.not.2 (hne ending hends)) ?_
    rw [hmethod.text]
    simp
  | result => exact hrule rfl
  | parameter => exact hrule rfl
  | base => exact hwords (by simp [methodWords, words, kindWords]) hoccurs
  | creation => exact hwords (by simp [methodWords, words]) hoccurs
  | usage => exact hwords (by simp [methodWords, words]) hoccurs

theorem not_occurs_inheritance (hkept : isFiltered q.text = false)
    (hrule : d.rule ≠ .inheritance) :
    ¬ inheritancePattern.Occurs none (d.chars q.chars) front piece rest pieces := by
  refine not_occurs_of_words hkept (fun w hw => ⟨isName_of_mem_kindWords w hw,
    isKeyword_of_mem_words w (List.mem_append_right _ (List.mem_append_right _ hw))⟩)
    (Pattern.opens_identifier.andThen _) ?_
  cases d with
  | base => exact absurd rfl hrule
  | _ => simp [words, accessWords, fieldModifiers, methodWords, methodModifiers]

theorem not_occurs_instantiations (hrule : d.rule ≠ .instantiations) :
    ¬ instantiationPattern.Occurs none (d.chars q.chars) front piece rest pieces := by
  intro hoccurs
  obtain ⟨name', gap, gap', gap'', type, gap₃, ending', hcreation⟩ :=
    fits_instantiationPattern hoccurs.fits (angle_not_mem_piece hoccurs)
  cases d with
  | creation => exact hrule rfl
  | field opening name ending hends =>
    -- The mark at the end is the only one, but here more follows.
    have htext : spaced (opening.tokens ++ [q.chars]) name.chars ++ ending :: [] =
        (front ++ (name' ++ gap)) ++ '=' :: (gap' ++ 'n' :: 'e' :: 'w' :: (gap'' ++ (type ++
          (gap₃ ++ ending' :: rest)))) := by
      rw [← spaced_last_append]
      refine hoccurs.text.trans ?_
      rw [hcreation.text]
      simp
    have hfree := opening.not_mem_declared isName_of_mem_fieldWords q name (c := '=') (by decide)
      (by decide)
    obtain ⟨-, -, hnil⟩ := (List.append_cons_inj_of_notMem hfree List.not_mem_nil).1 htext
    simp at hnil
  | _ =>
    refine not_mem_piece hoccurs (c := '=') (by decide) (by decide) (by simp [marks]) ?_
    rw [hcreation.text]
    simp

theorem not_occurs_attributes (hrule : d.rule ≠ .attributes) :
    ¬ attributePattern.Occurs none (d.chars q.chars) front piece rest pieces := by
  intro hoccurs
  obtain ⟨gap, body, rfl, -⟩ := fits_attributePattern_iff.1 hoccurs.fits
  exact (isPlain_piece hoccurs hrule).bracket (by simp)

theorem namesIn_other (hkept : isFiltered q.text = false) {rule : Rule} (hrule : d.rule ≠ rule) :
    rule.namesIn (d.chars q.chars) = [] := by
  have hnone : rule.pattern.findAll (d.chars q.chars) = [] := by
    refine Pattern.findAll_eq_nil_iff.2 fun front piece rest pieces => ?_
    cases rule with
    | fields => exact not_occurs_fields hkept hrule
    | methods => exact not_occurs_methods hkept hrule
    | inheritance => exact not_occurs_inheritance hkept hrule
    | instantiations => exact not_occurs_instantiations hrule
    | attributes => exact not_occurs_attributes hrule
  rw [Rule.namesIn, hnone]
  rfl

end Others

/-! ## The references of the text -/

theorem directives_chars : directives (d.chars q.chars) = .empty := by
  have hline : '\n' ∉ d.chars q.chars := by
    refine d.not_mem_chars q (by decide) (by decide) fun hmark => ?_
    exact absurd (d.isBlank_of_mark '\n' hmark) (by decide)
  refine directives_eq_empty hline fun gap word gap' c rest h => ?_
  obtain ⟨after, htokens, hafter⟩ := exists_tokens_of_opensDirective (d.areTokens q) (d.isBlank_last q) h
  have hword (ws : List String) (hws : ∀ w ∈ ws, w ∉ ["global", "using"]) : word ∉ ws :=
    fun hmem => hws word hmem h.word
  cases d with
  | field opening name ending hends =>
    have hfirst := String.toList_inj.1 (List.cons.inj htokens).1
    exact hword accessWords (by simp [accessWords]) (hfirst ▸ opening.known)
  | result opening name =>
    have hfirst := String.toList_inj.1 (List.cons.inj htokens).1
    exact hword methodWords (by simp [methodWords]) (hfirst ▸ opening.known)
  | parameter opening method name =>
    have hfirst := String.toList_inj.1 (List.cons.inj htokens).1
    exact hword methodWords (by simp [methodWords]) (hfirst ▸ opening.known)
  | base kind known name =>
    have hfirst := String.toList_inj.1 (List.cons.inj htokens).1
    exact hword kindWords (by simp [kindWords]) (hfirst ▸ known)
  | creation name =>
    rw [← (List.cons.inj htokens).2, spaced_cons] at hafter
    have hstart := h.starts
    rw [(List.cons.inj hafter).1] at hstart
    cases hstart
  | usage => cases htokens

theorem withoutByteOrderMark_chars :
    withoutByteOrderMark (d.chars q.chars) = d.chars q.chars := by
  refine withoutByteOrderMark_eq_self fun hhead => ?_
  refine d.not_mem_chars q (c := '\ufeff') (by decide +kernel) (by decide) ?_
    (List.mem_of_mem_head? hhead)
  cases d with
  | field opening name ending hends =>
    have hall : ∀ c ∈ [';', '=', ',', '\x7b'], '\ufeff' ≠ c := by simp
    exact List.mem_singleton.not.2 (hall ending hends)
  | _ => simp [marks]

theorem mem_extract_iff {q : QualifiedName} (hkept : isFiltered q.text = false)
    {config : ExtractionConfig} {name : String} :
    name ∈ extract config (d.chars q.chars) ↔
      config.isEnabled d.rule = true ∧ name ∈ d.rule.namesIn (d.chars q.chars) := by
  have hdirectives : directives (withoutByteOrderMark (d.chars q.chars)) = .empty := by
    rw [d.withoutByteOrderMark_chars q, d.directives_chars q]
  have hslot (rule : Rule) : name ∈ (classify config (d.chars q.chars)).slot rule ↔
      config.isEnabled rule = true ∧ name ∈ rule.namesIn (d.chars q.chars) := by
    rw [mem_slot_classify_iff hdirectives, d.withoutByteOrderMark_chars q]
  rw [extract, Classified.mem_references]
  constructor
  · rintro ⟨rule, hrule⟩
    have hfound := (hslot rule).1 hrule
    by_cases heq : d.rule = rule
    · exact heq ▸ hfound
    · rw [namesIn_other hkept heq] at hfound
      exact absurd hfound.2 List.not_mem_nil
  · exact fun h => ⟨d.rule, (hslot d.rule).2 h⟩

end Declaration

end RefAtlas.Reference
