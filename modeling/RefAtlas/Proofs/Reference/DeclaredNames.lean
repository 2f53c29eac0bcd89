import RefAtlas.Proofs.Reference.AttributeUsages
import RefAtlas.Proofs.Reference.BasesAndValues
import RefAtlas.Proofs.Reference.Parameters

/-! # The names in a declaration

* `Declaration.takesColons`, `Declaration.Admits`, `Declaration.named`: which names the rule for a
  place takes, and what they mean there.
* `Declaration.mem_namesIn_iff`: the rule finds the name, if it takes it.
-/

namespace RefAtlas.Reference
open RefAtlas.Text
set_option autoImplicit false

/-! ## The names that are found -/

/-- What a rule finds, if all that occurs is read as the same names. -/
theorem mem_namesIn_of_occurs {rule : Rule} {cs : List Char} {names : List String} {p : Prop}
    (honly : ∀ {front piece rest : List Char} {place : Cursor},
      rule.pattern.Occurs none cs front piece rest place.pieces → p ∧ rule.namesAt place = names)
    (hoccurs : p → ∃ piece rest pieces, rule.pattern.Occurs none cs [] piece rest pieces)
    {name : String} : name ∈ rule.namesIn cs ↔ p ∧ name ∈ names := by
  rw [Rule.namesIn, List.mem_flatMap]
  constructor
  · rintro ⟨place, hplace, hname⟩
    obtain ⟨front, piece, rest, hfound⟩ := Pattern.occurs_of_mem_findAll hplace
    obtain ⟨hp, hnames⟩ := honly hfound
    exact ⟨hp, hnames ▸ hname⟩
  · rintro ⟨hp, hname⟩
    obtain ⟨piece, rest, pieces, hthere⟩ := hoccurs hp
    obtain ⟨place, hplace, front, piece', rest', hfound, -⟩ := Pattern.exists_mem_findAll hthere
    exact ⟨place, hplace, (honly hfound).2 ▸ hname⟩

namespace Declaration

/-- Whether the rule for the place takes names with doubled colons. -/
def takesColons : Declaration → Bool
  | parameter .. => true
  | base .. => true
  | usage => true
  | _ => false

/-- The name is no word that has another meaning in the place of the type. -/
def Admits (q : QualifiedName) : Declaration → Prop
  | parameter .. => q.text ∉ parameterModifiers
  | base .. => constraintWord ∉ q.segments
  | _ => True

/-- The name of the type that is meant. -/
def named (q : QualifiedName) : Declaration → QualifiedName
  | usage => q.canonical
  | _ => q

/-- The type of a method without a result. -/
def voidName : QualifiedName :=
  ⟨⟨'v', ['o', 'i', 'd'], rfl, List.all_eq_true.1 (by decide +kernel)⟩, []⟩

theorem chars_parameter (opening : Opening methodWords methodModifiers) (method name : Identifier)
    (q : QualifiedName) : chars (.parameter opening method name) q.chars =
      methodChars opening voidName method (q.chars ++ ' ' :: name.chars) := by
  have hvoid : voidName.chars = "void".toList := by decide
  simp [chars, tokens, last, methodChars, spaced, hvoid]

theorem parameterNames_element (type : TypeName) (name : Identifier) :
    parameterNames (type.chars ++ ' ' :: name.chars) = keptNames [type.toQualifiedName] := by
  have htype := type.typeText
  have hitem := htype.element (some name)
  have hsplit : splitTopLevel (elementChars type.chars (some name)) =
      [elementChars type.chars (some name)] := by
    rw [splitTopLevel_of_sealed hitem.sealed, hitem.trimmed.trim_eq]
    simp [hitem.trimmed.ne_nil]
  have hnames := typeNames_name type.toQualifiedName
  rw [parameterNames, show type.chars ++ ' ' :: name.chars = elementChars type.chars (some name) from
    rfl, hsplit, List.flatMap_singleton, leadingType_element htype, hnames]

theorem baseNames_append {gap : List Char} (q : QualifiedName) (hgap : ∀ c ∈ gap, isBlank c = true) :
    baseNames (q.chars ++ gap) = keptNames [q] := by
  have hdrop : gap.reverse.dropWhile isBlank = [] :=
    List.dropWhile_eq_nil_iff.2 fun c hc => hgap c (List.mem_reverse.1 hc)
  have hend : trimEnd gap = [] := by
    rw [trimEnd, dropEndWhile, hdrop]
    rfl
  rw [baseNames, splitTopLevel_of_sealed (q.itemText.sealed.append (sealed_of_blank hgap)),
    q.trimmed.trim_append, hend, List.append_nil]
  simp [q.trimmed.ne_nil, typeNames_name]

/-! ### Places that are found -/

theorem piece?_eq_some {place : Cursor} {cs : List Char} (h : place.pieces = [(1, cs)]) :
    place.piece? 1 = some cs := by
  rw [Cursor.piece?_eq, h]
  rfl

theorem namesAt_methods {place : Cursor} {type : QualifiedName} {inner : List Char}
    (h : place.pieces = [(2, inner), (1, type.chars)]) :
    Rule.methods.namesAt place = keptNames [type] ++ parameterNames inner := by
  have htype : place.piece? 1 = some type.chars := by
    rw [Cursor.piece?_eq, h]
    rfl
  have hinner : place.piece? 2 = some inner := by
    rw [Cursor.piece?_eq, h]
    rfl
  simp [Rule.namesAt, htype, hinner, typeNames_name]

theorem mem_namesIn_parameter (opening : Opening methodWords methodModifiers)
    (method name : Identifier) {q : QualifiedName} (hadmits : q.text ∉ parameterModifiers)
    {found : String} : found ∈ Rule.methods.namesIn (chars (.parameter opening method name) q.chars) ↔
      found ∈ keptNames [q] := by
  have hnone {c : Char} (hpart : isNamePart c = false) (hspace : c ≠ ' ') :
      c ∉ q.chars ++ ' ' :: name.chars := by
    have hq : c ∉ q.chars := fun hmem => by simp [q.isNamePart_of_mem hmem] at hpart
    have hname : c ∉ name.chars := fun hmem => by
      simp [isNamePart_of_isWord (name.isWord_of_mem hmem)] at hpart
    simp [hq, hname, hspace]
  have hinner : '(' ∉ q.chars ++ ' ' :: name.chars ∧ ')' ∉ q.chars ++ ' ' :: name.chars :=
    ⟨hnone (by decide) (by decide), hnone (by decide) (by decide)⟩
  have hwords : ∀ w ∈ methodWords ++ methodModifiers, w.toList ≠ voidName.last.chars := by
    decide
  have hvoid : keptNames [voidName] = [] := by decide
  rw [← true_and (found ∈ keptNames [q])]
  refine mem_namesIn_of_occurs (fun hoccurs => ⟨trivial, ?_⟩) fun _ => ?_
  · have hplain := isPlain_piece hoccurs (by simp [rule])
    rw [chars_parameter] at hoccurs
    obtain ⟨-, hpieces⟩ := pieces_of_occurs_method hwords hinner hoccurs hplain
    rw [namesAt_methods hpieces, hvoid, List.nil_append]
    exact parameterNames_element ⟨q, hadmits⟩ name
  · rw [chars_parameter]
    exact occurs_method (List.forall_mem_nil _) hinner.2

theorem mem_namesIn_iff (d : Declaration) {q : QualifiedName} (hkept : isFiltered q.text = false)
    (hadmits : d.Admits q) {name : String} : name ∈ d.rule.namesIn (d.chars q.chars) ↔
      (d.takesColons = true ∨ q.IsPointed) ∧ name ∈ keptNames [d.named q] := by
  cases d with
  | field opening name ending hends =>
    simp only [takesColons, Bool.false_eq_true, false_or]
    refine mem_namesIn_of_occurs (fun hoccurs => ?_) (occurs_field opening name hends q)
    obtain ⟨hpointed, hpieces⟩ := pieces_of_occurs_field hoccurs
    exact ⟨hpointed, by simp [Rule.namesAt, rule, piece?_eq_some hpieces, typeNames_name, named]⟩
  | result opening name =>
    simp only [takesColons, Bool.false_eq_true, false_or]
    refine mem_namesIn_of_occurs (fun hoccurs => ?_) ?_
    · obtain ⟨hpointed, hpieces⟩ := pieces_of_occurs_method
        (fun w hw => q.toList_ne_last hkept (isKeyword_of_mem_methodWords w hw))
        ⟨List.not_mem_nil, List.not_mem_nil⟩ hoccurs (isPlain_piece hoccurs (by simp [rule]))
      exact ⟨hpointed, (namesAt_methods hpieces).trans (List.append_nil _)⟩
    · exact fun hpointed => occurs_method hpointed List.not_mem_nil
  | parameter opening method name =>
    simp only [takesColons, true_or, true_and]
    exact mem_namesIn_parameter opening method name hadmits
  | base kind known name =>
    simp only [takesColons, true_or]
    refine mem_namesIn_of_occurs (fun hoccurs => ⟨trivial, ?_⟩) fun _ => ?_
    · obtain ⟨gap, hpieces, hgap⟩ := pieces_of_occurs_base hadmits hoccurs
      simp [Rule.namesAt, rule, piece?_eq_some hpieces, baseNames_append q hgap, named]
    · exact occurs_base
  | creation name =>
    simp only [takesColons, Bool.false_eq_true, false_or]
    refine mem_namesIn_of_occurs (fun hoccurs => ?_) occurs_creation
    obtain ⟨hpointed, hpieces⟩ := pieces_of_occurs_creation hoccurs
    exact ⟨hpointed, by simp [Rule.namesAt, rule, piece?_eq_some hpieces, typeNames_name, named]⟩
  | usage =>
    simp only [takesColons, true_or, true_and]
    have hline : chars .usage q.chars = AttributeUsage.line ⟨q, [], none⟩ noMargin noMargin := by
      simp [chars, tokens, last, spaced, AttributeUsage.line, AttributeUsage.chars,
        AttributeUsage.head, AttributeUsage.argumentChars, AttributeUsage.valueChars, noMargin]
    rw [hline]
    exact AttributeUsage.mem_namesIn_line _ _ _

end Declaration

end RefAtlas.Reference
