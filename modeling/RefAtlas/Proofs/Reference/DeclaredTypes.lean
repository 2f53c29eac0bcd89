import RefAtlas.Proofs.Reference.OtherRules

/-! # The type of a field and of a method

* `type_eq_of_declared`: between words and a name, there is one way to read a type.
* `fits_opening`: the words of an opening fit at the start of a text.
* `pieces_of_occurs_field`, `occurs_field`: a field is found if its type is joined by points only, and
  the type is what is read; `pieces_of_occurs_method` and `occurs_method` say the same for the result
  of a method, and that the text in parentheses is read as well.
-/

namespace RefAtlas.Reference
open RefAtlas.Text
open RefAtlas.Pattern (IsName IsDottedName)
set_option autoImplicit false

/-! ## Words, a type and a name -/

section Split
variable {tokens : List (List Char)} {front gap : List Char}

theorem getLast?_spaced_nil (tokens : List (List Char)) :
    ∀ c ∈ (spaced tokens []).getLast?, c = ' ' := by
  intro c hc
  rcases List.eq_nil_or_concat tokens with rfl | ⟨init, token, rfl⟩
  · cases hc
  · rw [List.concat_eq_append, spaced_append, spaced_cons] at hc
    have hlast : (spaced init (token ++ [' '])).getLast? = some ' ' := by
      rw [spaced_last_append, List.getLast?_concat]
    exact (Option.some.inj (hlast.symm.trans hc)).symm

theorem split_name {name : Identifier} {name' : List Char}
    (htext : spaced tokens name.chars = front ++ (name' ++ gap)) (hname : IsName name')
    (hgap : ∀ c ∈ gap, isBlank c = true) (hfront : ∀ c ∈ front.getLast?, isBlank c = true) :
    front = spaced tokens [] := by
  have hidentifier : ∀ c ∈ name.chars, isWord c = true := fun _ => name.isWord_of_mem
  have hlast {before cs : List Char} (hcs : IsName cs) :
      ∀ c ∈ (before ++ cs).getLast?, isBlank c = false :=
    forall_getLast?_append hcs.ne_nil fun c hc => isBlank_eq_false_of_isWord (hcs.isWord_of_mem c hc)
  have htext' : spaced tokens name.chars ++ [] = (front ++ name') ++ gap := by
    rw [htext]
    simp
  have hwords := spaced_last_append tokens [] name.chars
  rw [List.nil_append] at hwords
  obtain ⟨hbefore, -⟩ := append_eq_append_of_run htext' (List.forall_mem_nil _) hgap
    (hwords ▸ hlast name.isName) (hlast hname)
  rw [hwords] at hbefore
  exact (append_eq_append_of_run hbefore hidentifier hname.isWord_of_mem
    (fun c hc => getLast?_spaced_nil tokens c hc ▸ rfl)
    fun c hc => isWord_eq_false_of_isBlank (hfront c hc)).1.symm

theorem split_type {type type' : List Char}
    (htext : spaced (tokens ++ [type]) [] = front ++ (type' ++ gap)) (hne : type ≠ [])
    (htype : ∀ c ∈ type, isBlank c = false) (hne' : type' ≠ [])
    (htype' : ∀ c ∈ type', isBlank c = false) (hgap : ∀ c ∈ gap, isBlank c = true)
    (hfront : ∀ c ∈ front.getLast?, isBlank c = true) : type' = type := by
  have htext' : (spaced tokens [] ++ type) ++ [' '] = (front ++ type') ++ gap := by
    rw [List.append_assoc, List.append_assoc, ← htext, spaced_append, spaced_cons,
      ← spaced_last_append, List.nil_append]
    rfl
  obtain ⟨hbefore, -⟩ := append_eq_append_of_run htext' (List.forall_mem_singleton.2 rfl) hgap
    (forall_getLast?_append hne htype) (forall_getLast?_append hne' htype')
  have hblank (cs : List Char) (h : ∀ c ∈ cs, isBlank c = false) : ∀ c ∈ cs, (!isBlank c) = true :=
    fun c hc => by rw [h c hc]; rfl
  exact (append_eq_append_of_run hbefore (hblank type htype) (hblank type' htype')
    (fun c hc => getLast?_spaced_nil tokens c hc ▸ rfl)
    fun c hc => by rw [hfront c hc]; rfl).2.symm

end Split

/-! ## Openings that fit -/

section Builders
variable {before : Option Char} {rest : List Char} {pieces : List (Nat × List Char)}

theorem fits_typePattern_of_dotted {type : List Char} (h : IsDottedName type)
    (hrest : ∀ c ∈ rest.head?, Pattern.isDotted c = false) :
    typePattern.Fits before type rest [] :=
  ⟨type, [], [], [], (List.append_nil _).symm, rfl, Pattern.fits_dottedName_iff.2 ⟨h, hrest, rfl⟩,
    [], [], [], [], rfl, rfl, .inr ⟨rfl, rfl⟩, [], [], [], [], rfl, rfl, .none, .inr ⟨rfl, rfl⟩⟩

theorem fits_wordThenBlanks_of_mem {ws : List String} {w : String} (hw : w ∈ ws)
    (hrest : ∀ c ∈ rest.head?, isBlank c = false) :
    (wordThenBlanks ws).Fits before (w.toList ++ [' ']) rest [] :=
  Pattern.fits_wordThenBlanks_iff.2 ⟨⟨w, hw, [' '], rfl, List.cons_ne_nil _ _,
    List.forall_mem_singleton.2 rfl⟩, hrest, rfl⟩

theorem head?_spaced_words {ws : List String} (hnames : ∀ w ∈ ws, IsName w.toList)
    {cs : List Char} (hcs : ∀ c ∈ cs.head?, isBlank c = false) :
    ∀ c ∈ (spaced (ws.map String.toList) cs).head?, isBlank c = false := by
  cases ws with
  | nil => exact hcs
  | cons w ws =>
    obtain ⟨c, tail, hchars, hc, -⟩ := hnames w List.mem_cons_self
    rw [List.map_cons, spaced_cons, hchars]
    exact fun d hd => Option.some.inj hd ▸ isBlank_eq_false_of_isWord (isWord_of_isNameStart hc)

theorem repeats_words {ws ms : List String} (hms : ∀ m ∈ ms, m ∈ ws)
    (hnames : ∀ w ∈ ws, IsName w.toList) (hrest : ∀ c ∈ rest.head?, isBlank c = false) :
    Pattern.Repeats (wordThenBlanks ws).Fits before (spaced (ms.map String.toList) []) rest [] := by
  induction ms generalizing before with
  | nil => exact .none
  | cons m ms ih =>
    obtain ⟨hm, hms⟩ := List.forall_mem_cons.1 hms
    have hhead : ∀ c ∈ (spaced (ms.map String.toList) [] ++ rest).head?, isBlank c = false := by
      rw [← spaced_last_append, List.nil_append]
      exact head?_spaced_words (fun w hw => hnames w (hms w hw)) hrest
    rw [List.map_cons, spaced_cons, List.append_cons]
    exact .more (by simp) (fits_wordThenBlanks_of_mem hm hhead) (ih hms)

theorem fits_opening {ws ms : List String} (o : Opening ws ms)
    (hnames : ∀ w ∈ ws ++ ms, IsName w.toList) {p : Pattern} {piece : List Char}
    (hstart : ∀ c ∈ (piece ++ rest).head?, isBlank c = false)
    (hp : ∀ before, p.Fits before piece rest pieces) :
    (Pattern.andThen .wordEdge (.andThen (wordThenBlanks ws)
      (.andThen (.star (wordThenBlanks ms)) p))).Fits none (spaced o.tokens piece) rest pieces := by
  have hms : ∀ w ∈ ms, IsName w.toList := fun w hw => hnames w (List.mem_append_right ws hw)
  have htext : spaced o.tokens piece =
      (o.first.toList ++ [' ']) ++ (spaced (o.more.map String.toList) [] ++ piece) := by
    rw [← spaced_last_append]
    exact (spaced_cons _ _ _).trans (List.append_cons _ _ _)
  have hedge : (none.any isWord != (spaced o.tokens piece ++ rest).head?.any isWord) = true := by
    obtain ⟨c, tail, hchars, hc, -⟩ := hnames o.first (List.mem_append_left ms o.known)
    rw [htext, hchars]
    simp [isWord_of_isNameStart hc]
  have hhead : ∀ c ∈ (spaced (o.more.map String.toList) [] ++ piece ++ rest).head?,
      isBlank c = false := by
    rw [List.append_assoc, ← spaced_last_append]
    exact head?_spaced_words (fun w hw => hms w (o.known' w hw)) hstart
  refine ⟨[], _, [], _, rfl, (List.append_nil _).symm, ⟨rfl, rfl, hedge⟩, _, _, [], _, htext,
    (List.append_nil _).symm, fits_wordThenBlanks_of_mem o.known hhead, _, _, [], _, rfl,
    (List.append_nil _).symm, repeats_words o.known' hms hstart, hp _⟩

end Builders

/-! ## Fields -/

section Declared
variable {tokens : List (List Char)} {front lead type gap name' gap' : List Char}
  {name : Identifier} {q : QualifiedName}

theorem isBlank_of_isDottedName {cs : List Char} (h : IsDottedName cs) :
    ∀ c ∈ cs, isBlank c = false := by
  obtain ⟨c, tail, rfl, hc, htail⟩ := h
  refine List.forall_mem_cons.2 ⟨isBlank_eq_false_of_isWord (isWord_of_isNameStart hc),
    fun d hd => isBlank_eq_false_of_isNamePart ?_⟩
  have hdotted := htail d hd
  simp only [Pattern.isDotted, Bool.or_eq_true, beq_iff_eq] at hdotted
  rcases hdotted with hword | rfl
  · exact isNamePart_of_isWord hword
  · rfl

/-- What is read as a type between words and a name is the type there. -/
theorem type_eq_of_declared (htext : spaced (tokens ++ [q.chars]) name.chars =
      (front ++ (lead ++ (type ++ gap))) ++ (name' ++ gap'))
    {ws : List String} (hlead : Leads ws (lastOr none front) lead) (hdotted : IsDottedName type)
    (hne : gap ≠ []) (hgap : ∀ c ∈ gap, isBlank c = true) (hname : IsName name')
    (hgap' : ∀ c ∈ gap', isBlank c = true) : type = q.chars := by
  have hbehind : ∀ c ∈ (front ++ (lead ++ (type ++ gap))).getLast?, isBlank c = true := by
    rw [← List.append_assoc, ← List.append_assoc]
    exact forall_getLast?_append hne hgap
  have hfront : ∀ c ∈ (front ++ lead).getLast?, isBlank c = true := by
    have hlast := hlead.isBlank_lastOr
    rw [← lastOr_append, lastOr, Option.or_none] at hlast
    exact hlast
  have hwords := split_name htext hname hgap' hbehind
  rw [← List.append_assoc] at hwords
  obtain ⟨c, tail, htype, -⟩ := id hdotted
  exact split_type hwords.symm q.trimmed.ne_nil (fun _ => q.isBlank_eq_false_of_mem)
    (htype ▸ List.cons_ne_nil c tail) (isBlank_of_isDottedName hdotted) hgap hfront

/-- Without a type between words and a name, the last of the words is at the end of the type. -/
theorem exists_last_of_declared (htext : spaced (tokens ++ [q.chars]) name.chars =
      (front ++ lead) ++ (name' ++ gap'))
    {ws : List String} (hws : ∀ w ∈ ws, IsName w.toList) (hlead : Leads ws (lastOr none front) lead)
    (hname : IsName name') (hgap' : ∀ c ∈ gap', isBlank c = true) :
    ∃ w ∈ ws, w.toList = q.last.chars := by
  obtain ⟨front', w, gap, rfl, hw, hne, hgap, hedge⟩ := hlead
  have hbehind : ∀ c ∈ (front ++ (front' ++ (w.toList ++ gap))).getLast?, isBlank c = true := by
    rw [← List.append_assoc, ← List.append_assoc]
    exact forall_getLast?_append hne hgap
  have hwords := split_name htext hname hgap' hbehind
  have htext' : spaced tokens q.chars ++ [' '] = (front ++ front' ++ w.toList) ++ gap := by
    rw [List.append_assoc, List.append_assoc, hwords, spaced_append, spaced_cons,
      ← spaced_last_append]
    rfl
  have hchars : spaced tokens q.chars = spaced tokens [] ++ q.chars := spaced_last_append tokens [] _
  obtain ⟨hcut, -⟩ := append_eq_append_of_run htext' (List.forall_mem_singleton.2 rfl) hgap
    (hchars ▸ forall_getLast?_append q.trimmed.ne_nil fun _ => q.isBlank_eq_false_of_mem)
    (forall_getLast?_append (hws w hw).ne_nil fun c hc =>
      isBlank_eq_false_of_isWord ((hws w hw).isWord_of_mem c hc))
  rw [← lastOr_append, lastOr, Option.or_none] at hedge
  refine ⟨w, hw, ?_⟩
  rw [← lastWord_append (hws w hw).isWord_of_mem hedge, ← hcut, hchars]
  exact q.lastWord_append_chars fun c hc => getLast?_spaced_nil tokens c hc ▸ rfl

end Declared

theorem Identifier.head?_append_not_blank (i : Identifier) (cs : List Char) :
    ∀ c ∈ (i.chars ++ cs).head?, isBlank c = false := fun _ hc =>
  Option.some.inj hc ▸ isBlank_eq_false_of_isWord (isWord_of_isNameStart i.starts)

theorem QualifiedName.head?_append_not_blank (q : QualifiedName) (cs : List Char) :
    ∀ c ∈ (q.chars ++ cs).head?, isBlank c = false := fun _ hc =>
  Option.some.inj hc ▸ isBlank_eq_false_of_isWord (isWord_of_isNameStart q.first.starts)

section Field
variable (opening : Opening accessWords fieldModifiers) (name : Identifier) {ending : Char}
  (hends : ending ∈ [';', '=', ',', '\x7b']) (q : QualifiedName)

variable {opening name hends q} in
theorem pieces_of_occurs_field {front piece rest : List Char} {pieces : List (Nat × List Char)}
    (hoccurs : fieldPattern.Occurs none (Declaration.chars (.field opening name ending hends) q.chars)
      front piece rest pieces) : q.IsPointed ∧ pieces = [(1, q.chars)] := by
  obtain ⟨lead, type, gap, name', gap', ending', h⟩ :=
    fits_fieldPattern hoccurs.fits (Declaration.isPlain_piece hoccurs (by simp [Declaration.rule]))
  have hpart : ∀ c ∈ [';', '=', ',', '\x7b'], isNamePart c = false ∧ c ≠ ' ' := by
    simp; decide
  obtain ⟨hpart, hspace⟩ := hpart ending' h.ends
  have htext : spaced (opening.tokens ++ [q.chars]) name.chars ++ ending :: [] =
      (front ++ (lead ++ (type ++ gap)) ++ (name' ++ gap')) ++ ending' :: rest := by
    rw [← spaced_last_append]
    refine hoccurs.text.trans ?_
    rw [h.text]
    simp
  have hfree := opening.not_mem_declared isName_of_mem_fieldWords q name hpart hspace
  obtain ⟨htext', -, -⟩ := (List.append_cons_inj_of_notMem hfree List.not_mem_nil).1 htext
  obtain rfl := type_eq_of_declared htext' h.leads h.dotted h.apart h.blank h.named h.blank'
  exact ⟨q.isPointed_iff.2 h.dotted, h.pieces⟩

theorem occurs_field (hpointed : q.IsPointed) : ∃ piece rest pieces,
    fieldPattern.Occurs none (Declaration.chars (.field opening name ending hends) q.chars)
      [] piece rest pieces := by
  have htext : Declaration.chars (.field opening name ending hends) q.chars =
      spaced opening.tokens (q.chars ++ ([' '] ++ (name.chars ++ ([] ++ [ending])))) := by
    rw [Declaration.chars, Declaration.tokens, Declaration.last, spaced_append, spaced_cons]
    rfl
  have hmark : isWord ending = false ∧ isBlank ending = false := by
    have hall : ∀ c ∈ [';', '=', ',', '\x7b'], isWord c = false ∧ isBlank c = false := by
      simp [isBlank]; decide
    exact hall ending hends
  refine ⟨_, [], [(1, q.chars)], htext.trans (List.append_nil _).symm,
    fits_opening opening isName_of_mem_fieldWords ?_ fun before => ?_⟩
  · rw [List.append_assoc]
    exact q.head?_append_not_blank _
  refine Pattern.fits_capture_of_fits
    (fits_typePattern_of_dotted (q.isPointed_iff.1 hpointed) (by simp; decide)) ?_
  refine Pattern.fits_andThen (Pattern.fits_blanks1_space ?_) ?_
  · rw [List.append_assoc]
    exact name.head?_append_not_blank _
  refine Pattern.fits_andThen
    (Pattern.fits_identifier_iff.2 ⟨name.isName, by simpa using hmark.1, rfl⟩) ?_
  exact Pattern.fits_andThen (Pattern.fits_blanks_nil (by simpa using hmark.2))
    ⟨⟨ending, List.contains_iff_mem.2 hends, rfl⟩, rfl⟩

end Field

/-! ## Methods -/

theorem isKeyword_of_mem_methodWords :
    ∀ w ∈ methodWords ++ methodModifiers, isKeyword w = true :=
  List.all_eq_true.1 (by decide)

section Method
variable {opening : Opening methodWords methodModifiers} {type : QualifiedName} {name : Identifier}
  {inner : List Char}

/-- The text of a method, up to the end of its parameters. -/
def methodChars (opening : Opening methodWords methodModifiers) (type : QualifiedName)
    (name : Identifier) (inner : List Char) : List Char :=
  spaced (opening.tokens ++ [type.chars]) (name.chars ++ '(' :: (inner ++ [')']))

theorem pieces_of_occurs_method {front piece rest : List Char} {pieces : List (Nat × List Char)}
    (htype : ∀ w ∈ methodWords ++ methodModifiers, w.toList ≠ type.last.chars)
    (hinner : '(' ∉ inner ∧ ')' ∉ inner)
    (hoccurs : methodPattern.Occurs none (methodChars opening type name inner) front piece rest
      pieces) (hplain : IsPlain piece) :
    type.IsPointed ∧ pieces = [(2, inner), (1, type.chars)] := by
  obtain ⟨lead, result, name', gap, inner', resultPieces, h⟩ := fits_methodPattern hoccurs.fits hplain
  have htext : spaced (opening.tokens ++ [type.chars]) name.chars ++ '(' :: (inner ++ [')']) =
      ((front ++ (lead ++ result)) ++ (name' ++ gap)) ++ '(' :: (inner' ++ ')' :: rest) := by
    rw [← spaced_last_append]
    refine hoccurs.text.trans ?_
    rw [h.text]
    simp
  have hfree := opening.not_mem_declared isName_of_mem_methodWords type name (c := '(') (by decide)
    (by decide)
  have hbehind : '(' ∉ inner ++ [')'] := by simpa using hinner.1
  obtain ⟨htext', -, hinner'⟩ := (List.append_cons_inj_of_notMem hfree hbehind).1 htext
  obtain rfl : inner = inner' := (List.append_cons_inj_of_notMem hinner.2 (by simp)).1 hinner' |>.1
  have hpieces := h.pieces
  cases h.result with
  | none =>
    rw [List.append_nil] at htext'
    obtain ⟨w, hw, hlast⟩ := exists_last_of_declared htext' isName_of_mem_methodWords h.leads
      h.named h.blank
    exact absurd hlast (htype w hw)
  | type hdotted hne hgap =>
    obtain rfl := type_eq_of_declared htext' h.leads hdotted hne hgap h.named h.blank
    exact ⟨type.isPointed_iff.2 hdotted, hpieces⟩

theorem occurs_method (hpointed : type.IsPointed) (hinner : ')' ∉ inner) : ∃ piece rest pieces,
    methodPattern.Occurs none (methodChars opening type name inner) [] piece rest pieces := by
  have htext : methodChars opening type name inner =
      spaced opening.tokens ((type.chars ++ [' ']) ++ (name.chars ++ ([] ++ ([] ++ ([] ++ (['('] ++
        (inner ++ [')']))))))) := by
    rw [methodChars, spaced_append, spaced_cons]
    simp [spaced]
  refine ⟨_, [], [(2, inner), (1, type.chars)], htext.trans (List.append_nil _).symm,
    fits_opening opening isName_of_mem_methodWords ?_ fun before => ?_⟩
  · rw [List.append_assoc, List.append_assoc]
    exact type.head?_append_not_blank _
  -- The result is the only part in front of the parameters that is remembered.
  refine ⟨type.chars ++ [' '], _, [(1, type.chars)], [(2, inner)], rfl, rfl,
    .inl (Pattern.fits_capture_of_fits
      (fits_typePattern_of_dotted (type.isPointed_iff.1 hpointed) (by simp; decide))
      (Pattern.fits_blanks1_space ?_)), ?_⟩
  · rw [List.append_assoc]
    exact name.head?_append_not_blank _
  refine Pattern.fits_andThen
    (Pattern.fits_identifier_iff.2 ⟨name.isName, by simp; decide, rfl⟩) ?_
  refine Pattern.fits_andThen (Pattern.fits_blanks_nil (by simp [isBlank])) ?_
  refine Pattern.fits_andThen (.inr ⟨rfl, rfl⟩) ?_
  refine Pattern.fits_andThen (Pattern.fits_blanks_nil (by simp [isBlank])) ?_
  refine Pattern.fits_andThen ⟨rfl, rfl⟩ ?_
  exact Pattern.fits_capture_of_fits
    ⟨fun c hc => bne_iff_ne.2 fun heq => hinner (heq ▸ hc), by simp, rfl⟩ ⟨rfl, rfl⟩

end Method

end RefAtlas.Reference
