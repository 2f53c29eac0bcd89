import RefAtlas.Proofs.Reference.OpeningWords
import RefAtlas.Proofs.Text.Spaced

/-! # What the rules for declarations look for

The patterns of these rules, told without a search: what stands around the type that is read.

* `Leads`: modifiers with white space behind the last one.
* `fits_typePattern_of_plain`: without brackets and question marks, a type is a dotted name.
* `fits_fieldPattern`, `fits_methodPattern`, `fits_instantiationPattern`, `fits_basesPattern`: what
  fits the rules, part by part.
-/

namespace RefAtlas.Reference
open RefAtlas.Text
open RefAtlas.Pattern (IsName IsDottedName)
set_option autoImplicit false

/-! ## Words -/

def accessWords : List String := ["public", "private", "protected", "internal"]

def fieldModifiers : List String :=
  ["static", "readonly", "const", "volatile", "new", "override", "virtual", "abstract", "sealed",
    "extern", "unsafe", "required", "event"]

def methodWords : List String :=
  ["public", "private", "protected", "internal", "static", "virtual", "override", "abstract",
    "async"]

def methodModifiers : List String :=
  ["public", "private", "protected", "internal", "static", "virtual", "override", "abstract",
    "async", "sealed", "new", "extern", "unsafe"]

def kindWords : List String := ["class", "struct", "interface", "record"]

theorem isWord_eq_false_of_isBlank {c : Char} (h : isBlank c = true) : isWord c = false := by
  refine Bool.eq_false_iff.2 fun hword => ?_
  rw [isBlank_eq_false_of_isWord hword] at h
  cases h

section Pieces
variable {before : Option Char} {piece rest : List Char} {pieces : List (Nat × List Char)}

/-! ## Modifiers -/

/-- Modifiers, the last of them one of some words with white space behind it. -/
def Leads (ws : List String) (before : Option Char) (lead : List Char) : Prop :=
  ∃ front word gap, lead = front ++ (word.toList ++ gap) ∧ word ∈ ws ∧ gap ≠ [] ∧
    (∀ c ∈ gap, isBlank c = true) ∧ ∀ c ∈ lastOr before front, isWord c = false

section Leads
variable {ws ms : List String} {lead : List Char}

theorem Leads.isBlank_lastOr (h : Leads ws before lead) :
    ∀ c ∈ lastOr before lead, isBlank c = true := by
  obtain ⟨front, word, gap, rfl, -, hne, hblank, -⟩ := h
  intro c hc
  rw [lastOr_append, lastOr_append, lastOr, List.getLast?_eq_some_getLast hne] at hc
  exact Option.some.inj hc ▸ hblank _ (List.getLast_mem hne)

theorem Leads.ne_nil (h : Leads ws before lead) : lead ≠ [] := by
  obtain ⟨front, word, gap, rfl, -, hne, -⟩ := h
  simp [hne]

theorem Leads.mono (h : Leads ws before lead) (hws : ws ⊆ ms) : Leads ms before lead := by
  obtain ⟨front, word, gap, hlead, hword, hrest⟩ := h
  exact ⟨front, word, gap, hlead, hws hword, hrest⟩

theorem Leads.append {lead' : List Char} (h : Leads ws (lastOr before lead) lead') :
    Leads ws before (lead ++ lead') := by
  obtain ⟨front, word, gap, rfl, hword, hne, hblank, hedge⟩ := h
  refine ⟨lead ++ front, word, gap, by simp, hword, hne, hblank, ?_⟩
  rwa [lastOr_append]

theorem leads_of_wordThenBlanks (h : (wordThenBlanks ws).Fits before piece rest pieces)
    (hedge : ∀ c ∈ before, isWord c = false) : pieces = [] ∧ Leads ws before piece := by
  obtain ⟨⟨word, hword, gap, rfl, hne, hblank⟩, -, rfl⟩ := Pattern.fits_wordThenBlanks_iff.1 h
  exact ⟨rfl, [], word, gap, rfl, hword, hne, hblank, hedge⟩

theorem leads_of_repeats (h : Pattern.Repeats (wordThenBlanks ws).Fits before piece rest pieces)
    (hedge : ∀ c ∈ before, isWord c = false) :
    pieces = [] ∧ (piece = [] ∨ Leads ws before piece) := by
  induction h with
  | none => exact ⟨rfl, .inl rfl⟩
  | more _ hfirst _ ih =>
    obtain ⟨rfl, hlead⟩ := leads_of_wordThenBlanks hfirst hedge
    obtain ⟨rfl, rfl | hlead'⟩ := ih fun c hc =>
      isWord_eq_false_of_isBlank (hlead.isBlank_lastOr c hc)
    · exact ⟨rfl, .inr (by rwa [List.append_nil])⟩
    · exact ⟨rfl, .inr hlead'.append⟩

theorem fits_leads {p : Pattern} (hws : (ws.all fun w => w.toList.head?.any isNameStart) = true)
    (h : (Pattern.andThen .wordEdge (.andThen (wordThenBlanks ws)
      (.andThen (.star (wordThenBlanks ms)) p))).Fits before piece rest pieces) :
    ∃ lead tail, piece = lead ++ tail ∧ Leads (ws ++ ms) before lead ∧
      p.Fits (lastOr before lead) tail rest pieces := by
  obtain ⟨_, _, _, _, rfl, rfl, ⟨rfl, rfl, hedge⟩, first, _, _, _, rfl, rfl, hfirst, second, tail,
    _, _, rfl, rfl, hsecond, htail⟩ := h
  rw [lastOr_nil] at hfirst hsecond htail
  have hbefore : ∀ c ∈ before, isWord c = false := by
    obtain ⟨c, cs, rfl, hc⟩ := Pattern.opens_wordThenBlanks hws _ _ _ _ hfirst
    intro d hd
    rw [hd] at hedge
    simpa [isWord_of_isNameStart hc] using hedge
  obtain ⟨rfl, hlead⟩ := leads_of_wordThenBlanks hfirst hbefore
  obtain ⟨rfl, hlead'⟩ := leads_of_repeats hsecond fun c hc =>
    isWord_eq_false_of_isBlank (hlead.isBlank_lastOr c hc)
  rw [← lastOr_append] at htail
  refine ⟨first ++ second, tail, by simp, ?_, by simpa using htail⟩
  rcases hlead' with rfl | hlead'
  · rw [List.append_nil]
    exact hlead.mono (List.subset_append_left ws ms)
  · exact hlead'.append.mono (List.subset_append_right ws ms)

end Leads

/-! ## Types -/

/-- Nothing in a text belongs to a generic part, an array suffix or a question mark. -/
structure IsPlain (cs : List Char) : Prop where
  angle : '<' ∉ cs
  bracket : '[' ∉ cs
  mark : '?' ∉ cs

theorem IsPlain.mono {cs ds : List Char} (h : IsPlain cs) (hsub : ds ⊆ cs) : IsPlain ds :=
  ⟨fun hc => h.angle (hsub hc), fun hc => h.bracket (hsub hc), fun hc => h.mark (hsub hc)⟩

theorem opens_typePattern : typePattern.Opens isNameStart := Pattern.opens_dottedName.andThen _

theorem fits_typePattern_of_plain (h : typePattern.Fits before piece rest pieces)
    (hplain : IsPlain piece) : IsDottedName piece ∧ pieces = [] := by
  obtain ⟨name, _, _, _, rfl, rfl, hname, arguments, _, _, _, rfl, rfl, harguments, ranks, mark,
    _, _, rfl, rfl, hranks, hmark⟩ := h
  obtain ⟨hangle, hbracket, hquestion⟩ := hplain
  simp only [List.mem_append, not_or] at hangle hbracket hquestion
  obtain ⟨hdotted, -, rfl⟩ := Pattern.fits_dottedName_iff.1 hname
  obtain ⟨rfl, rfl⟩ := Pattern.eq_nil_of_optional
    (((Pattern.needs_text (by simp)).andThen _).behind _) harguments hangle.2.1
  obtain ⟨rfl, rfl⟩ := Pattern.eq_nil_of_star
    (((Pattern.needs_text (by simp)).andThen _).behind _) hranks hbracket.2.2.1
  obtain ⟨rfl, rfl⟩ := Pattern.eq_nil_of_optional (Pattern.needs_text (by simp)) hmark
    hquestion.2.2.2
  simpa using hdotted

/-! ## Fields -/

/-- The parts of a field: modifiers, the type, a name and what ends it. -/
structure FieldAt (before : Option Char) (piece : List Char) (pieces : List (Nat × List Char))
    (lead type gap name gap' : List Char) (ending : Char) : Prop where
  text : piece = lead ++ (type ++ (gap ++ (name ++ (gap' ++ [ending]))))
  leads : Leads (accessWords ++ fieldModifiers) before lead
  dotted : IsDottedName type
  apart : gap ≠ []
  blank : ∀ c ∈ gap, isBlank c = true
  named : IsName name
  blank' : ∀ c ∈ gap', isBlank c = true
  ends : ending ∈ [';', '=', ',', '\x7b']
  pieces : pieces = [(1, type)]

theorem fits_fieldPattern (h : fieldPattern.Fits before piece rest pieces)
    (hplain : IsPlain piece) :
    ∃ lead type gap name gap' ending, FieldAt before piece pieces lead type gap name gap' ending := by
  obtain ⟨lead, _, rfl, hlead, h₁⟩ := fits_leads rfl h
  obtain ⟨type, _, _, _, rfl, rfl, htype, h₂⟩ := Pattern.fits_capture_andThen h₁
  obtain ⟨gap, _, rfl, hne, hblank, -, h₃⟩ := Pattern.fits_blanks1_andThen h₂
  obtain ⟨name, _, rfl, hname, -, h₄⟩ := Pattern.fits_identifier_andThen h₃
  obtain ⟨gap', _, rfl, hgap', -, ⟨ending, hending, rfl⟩, rfl⟩ := Pattern.fits_blanks_andThen h₄
  obtain ⟨hdotted, rfl⟩ := fits_typePattern_of_plain htype
    (hplain.mono fun c hc => by simp [hc])
  exact ⟨lead, type, gap, name, gap', ending, rfl, hlead, hdotted, hne, hblank, hname, hgap',
    List.contains_iff_mem.1 hending, rfl⟩

/-! ## Methods -/

/-- The type of a method's result with white space behind it, unless there is none. -/
inductive ResultAt : List Char → List (Nat × List Char) → Prop where
  | none : ResultAt [] []
  | type {type gap : List Char} (hdotted : IsDottedName type) (hne : gap ≠ [])
      (hblank : ∀ c ∈ gap, isBlank c = true) : ResultAt (type ++ gap) [(1, type)]

/-- The parts of a method: modifiers, the result, a name and what stands in parentheses. -/
structure MethodAt (before : Option Char) (piece : List Char) (pieces : List (Nat × List Char))
    (lead result name gap inner : List Char) (resultPieces : List (Nat × List Char)) : Prop where
  text : piece = lead ++ (result ++ (name ++ (gap ++ '(' :: (inner ++ [')']))))
  leads : Leads (methodWords ++ methodModifiers) before lead
  result : ResultAt result resultPieces
  named : IsName name
  blank : ∀ c ∈ gap, isBlank c = true
  closed : ')' ∉ inner
  pieces : pieces = (2, inner) :: resultPieces

theorem fits_methodPattern (h : methodPattern.Fits before piece rest pieces)
    (hplain : IsPlain piece) : ∃ lead result name gap inner resultPieces,
      MethodAt before piece pieces lead result name gap inner resultPieces := by
  obtain ⟨lead, _, rfl, hlead, h₁⟩ := fits_leads rfl h
  obtain ⟨result, _, resultPieces, _, rfl, rfl, hresult, h₂⟩ := h₁
  obtain ⟨name, _, rfl, hname, -, h₃⟩ := Pattern.fits_identifier_andThen h₂
  obtain ⟨gap, _, rfl, hgap, -, h₄⟩ := Pattern.fits_blanks_andThen h₃
  obtain ⟨generic, _, _, _, rfl, rfl, hgeneric, h₅⟩ := h₄
  obtain ⟨gap', _, rfl, hgap', -, h₆⟩ := Pattern.fits_blanks_andThen h₅
  obtain ⟨_, rfl, h₇⟩ := Pattern.fits_text_andThen h₆
  obtain ⟨inner, _, _, _, rfl, rfl, ⟨hinner, -, rfl⟩, rfl, rfl⟩ := Pattern.fits_capture_andThen h₇
  have hangle := hplain.angle
  simp only [List.mem_append, not_or] at hangle
  obtain ⟨rfl, rfl⟩ := Pattern.eq_nil_of_optional ((Pattern.needs_text (by simp)).andThen _)
    hgeneric hangle.2.2.2.2.1
  have hresult' : ResultAt result resultPieces := by
    rcases hresult with hresult | ⟨rfl, rfl⟩
    · obtain ⟨type, gap, _, _, rfl, rfl, htype, hgap⟩ := Pattern.fits_capture_andThen hresult
      obtain ⟨hne, hblank, -, rfl⟩ := Pattern.fits_blanks1_iff.1 hgap
      obtain ⟨hdotted, rfl⟩ := fits_typePattern_of_plain htype
        (hplain.mono fun c hc => by simp [hc])
      exact .type hdotted hne hblank
    · exact .none
  have hclosed : ')' ∉ inner := fun hmem => by simpa using hinner _ hmem
  exact ⟨lead, result, name, gap ++ gap', inner, resultPieces, by simp, hlead, hresult', hname,
    List.forall_mem_append.2 ⟨hgap, hgap'⟩, hclosed, by simp⟩

/-! ## Values made with new -/

/-- The parts of a value that is made: a name, the word between them, the type and what opens behind
it. -/
structure CreationAt (piece rest : List Char) (pieces : List (Nat × List Char))
    (name gap gap' gap'' type gap₃ : List Char) (ending : Char) : Prop where
  text : piece = name ++ (gap ++ '=' :: (gap' ++ ('n' :: 'e' :: 'w' :: (gap'' ++ (type ++
    (gap₃ ++ [ending]))))))
  named : IsName name
  blank : ∀ c ∈ gap, isBlank c = true
  blank' : ∀ c ∈ gap', isBlank c = true
  apart : gap'' ≠ []
  blank'' : ∀ c ∈ gap'', isBlank c = true
  dotted : IsDottedName type
  blank₃ : ∀ c ∈ gap₃, isBlank c = true
  ends : ending ∈ ['(', '[', '\x7b']
  stops : ∀ c ∈ (gap₃ ++ ending :: rest).head?, Pattern.isDotted c = false
  pieces : pieces = [(1, type)]

theorem fits_instantiationPattern (h : instantiationPattern.Fits before piece rest pieces)
    (hplain : '<' ∉ piece) : ∃ name gap gap' gap'' type gap₃ ending,
      CreationAt piece rest pieces name gap gap' gap'' type gap₃ ending := by
  obtain ⟨name, _, rfl, hname, -, h₁⟩ :=
    Pattern.fits_identifier_andThen (Pattern.fits_wordEdge_andThen h).2
  obtain ⟨gap, _, rfl, hgap, -, h₂⟩ := Pattern.fits_blanks_andThen h₁
  obtain ⟨_, rfl, h₃⟩ := Pattern.fits_text_andThen h₂
  obtain ⟨gap', _, rfl, hgap', -, h₄⟩ := Pattern.fits_blanks_andThen h₃
  obtain ⟨_, rfl, h₅⟩ := Pattern.fits_text_andThen h₄
  obtain ⟨gap'', _, rfl, hne, hblank, -, h₆⟩ := Pattern.fits_blanks1_andThen h₅
  obtain ⟨_, _, _, _, rfl, rfl, ⟨type, arguments, _, _, rfl, rfl, htype, harguments⟩, h₇⟩ :=
    Pattern.fits_capture_andThen h₆
  obtain ⟨gap₃, _, rfl, hgap₃, -, ⟨ending, hending, rfl⟩, rfl⟩ := Pattern.fits_blanks_andThen h₇
  obtain ⟨hdotted, hstops, rfl⟩ := Pattern.fits_dottedName_iff.1 htype
  simp only [List.mem_append, not_or] at hplain
  obtain ⟨rfl, rfl⟩ := Pattern.eq_nil_of_optional
    (((Pattern.needs_text (by simp)).andThen _).behind _) harguments hplain.2.2.2.2.2.2.1.2
  exact ⟨name, gap, gap', gap'', type, gap₃, ending, by simp, hname, hgap, hgap', hne, hblank,
    hdotted, hgap₃, List.contains_iff_mem.1 hending, by simpa using hstops, by simp⟩

/-! ## Lists of bases -/

def constraintWord : List Char := ['w', 'h', 'e', 'r', 'e']

/-- What ends a list of bases: a mark, or the word for constraints on its own. -/
inductive EndsBases : Option Char → List Char → List Char → Prop where
  | mark {before : Option Char} {c : Char} {rest : List Char} (hc : c ∈ ['\x7b', ';']) :
    EndsBases before [c] rest
  | constraint {before : Option Char} {rest : List Char} (hbefore : ∀ c ∈ before, isWord c = false)
    (hrest : ∀ c ∈ rest.head?, isWord c = false) : EndsBases before constraintWord rest

theorem fits_basesEnd (h : basesEnd.Fits before piece rest pieces) :
    EndsBases before piece rest ∧ pieces = [] := by
  rcases h with h | ⟨⟨c, hc, rfl⟩, rfl⟩
  · obtain ⟨hedge, h₁⟩ := Pattern.fits_wordEdge_andThen h
    obtain ⟨_, rfl, rfl, rfl, hedge'⟩ := Pattern.fits_text_andThen h₁
    have hword : ∀ c ∈ constraintWord, isWord c = true := by simp [constraintWord]; decide
    have hbefore : before.any isWord = false := by
      have hfirst : (some 'w').any isWord = true := hword 'w' (by simp [constraintWord])
      simpa [hfirst] using hedge
    have hrest : rest.head?.any isWord = false := by
      have hlast : (some 'e').any isWord = true := hword 'e' (by simp [constraintWord])
      simpa [hlast, lastOr] using hedge'
    refine ⟨.constraint (fun c hc => ?_) fun c hc => ?_, rfl⟩
    · simpa [Option.mem_def.1 hc] using hbefore
    · simpa [Option.mem_def.1 hc] using hrest
  · exact ⟨.mark (List.contains_iff_mem.1 hc), rfl⟩

/-- The parts of a list of bases: a word, a name, a colon, the bases if there are any, and the end. -/
structure BasesAt (before : Option Char) (piece rest : List Char) (pieces : List (Nat × List Char))
    (kind : String) (gap name gap' gap'' bases gap₃ ending : List Char) : Prop where
  text : piece = kind.toList ++ (gap ++ (name ++ (gap' ++ ':' :: (gap'' ++ (bases ++
    (gap₃ ++ ending))))))
  known : kind ∈ kindWords
  edge : before.any isWord = false
  apart : gap ≠ []
  blank : ∀ c ∈ gap, isBlank c = true
  named : IsName name
  blank' : ∀ c ∈ gap', isBlank c = true
  blank'' : ∀ c ∈ gap'', isBlank c = true
  starts : ∀ c ∈ (bases ++ (gap₃ ++ (ending ++ rest))).head?, isBlank c = false
  found : bases = [] ∧ gap₃ = [] ∨ bases ≠ [] ∧ pieces = [(1, bases)]
  blank₃ : ∀ c ∈ gap₃, isBlank c = true
  ends : EndsBases (lastOr (some ':') (gap'' ++ (bases ++ gap₃))) ending rest

theorem fits_inheritancePattern (h : inheritancePattern.Fits before piece rest pieces)
    (hplain : '<' ∉ piece) : ∃ kind gap name gap' gap'' bases gap₃ ending,
      BasesAt before piece rest pieces kind gap name gap' gap'' bases gap₃ ending := by
  obtain ⟨kind, hkind, gap, c, cs, rfl, hne, hblank, -, hedge, h₁⟩ :=
    fits_wordEdge_wordThenBlanks rfl (Pattern.opens_identifier.andThen _) h
  obtain ⟨name, _, hcs, hname, -, generic, _, _, _, rfl, rfl, hgeneric, h₂⟩ :=
    Pattern.fits_identifier_andThen h₁
  rw [hcs] at hplain ⊢
  simp only [List.mem_append, not_or] at hplain
  obtain ⟨rfl, rfl⟩ := Pattern.eq_nil_of_optional
    (((Pattern.needs_text (by simp)).andThen _).behind _) hgeneric hplain.2.2.2.1
  obtain ⟨gap', _, rfl, hgap', -, h₃⟩ := Pattern.fits_blanks_andThen h₂
  obtain ⟨_, rfl, h₄⟩ := Pattern.fits_text_andThen h₃
  have hcolon (b : Option Char) : lastOr b ":".toList = some ':' := rfl
  rw [hcolon] at h₄
  rcases h₄ with h₄ | h₄
  · obtain ⟨gap'', _, rfl, hgap'', hstarts, h₅⟩ := Pattern.fits_blanks_andThen h₄
    obtain ⟨bases, _, _, _, rfl, rfl, hbases, h₆⟩ := Pattern.fits_capture_andThen h₅
    obtain ⟨gap₃, ending, rfl, hgap₃, -, hending⟩ := Pattern.fits_blanks_andThen h₆
    obtain ⟨hends, rfl⟩ := fits_basesEnd hending
    obtain ⟨_, tail, _, _, rfl, rfl, ⟨⟨d, -, rfl⟩, rfl⟩, -, rfl⟩ := hbases
    refine ⟨kind, gap, name, gap', gap'', [d] ++ tail, gap₃, ending, by simp, hkind, hedge, hne,
      hblank, hname, hgap', hgap'', by simpa using hstarts, .inr ⟨by simp, by simp⟩, hgap₃, ?_⟩
    rwa [lastOr_append, lastOr_append]
  · obtain ⟨gap'', ending, rfl, -, hgap'', hstarts, hending⟩ := Pattern.fits_blanks1_andThen h₄
    obtain ⟨hends, rfl⟩ := fits_basesEnd hending
    refine ⟨kind, gap, name, gap', gap'', [], [], ending, by simp, hkind, hedge, hne,
      hblank, hname, hgap', hgap'', by simpa using hstarts, .inl ⟨rfl, rfl⟩, by simp, ?_⟩
    simpa using hends

end Pieces

end RefAtlas.Reference
