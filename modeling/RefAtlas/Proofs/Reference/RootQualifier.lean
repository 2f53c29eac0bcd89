import RefAtlas.Proofs.Reference.DeclaredNames

/-! # The root in front of a name

* `RefersTo`: the units that a text refers to, each under the last segment of a name in it.
* `QualifiedName.shortName_named_rooted`: a name with the root in front of it means the same unit.
* `refersTo_rooted`: which places of a declaration take the name with the root as the name without.
-/

namespace RefAtlas.Reference
open RefAtlas.Text
set_option autoImplicit false

/-- A text refers to the unit with an id. -/
def RefersTo (config : ExtractionConfig) (text : List Char) (id : String) : Prop :=
  ∃ name ∈ extract config text, shortName name = id

/-! ## Names with the root -/

namespace QualifiedName
variable (q : QualifiedName)

theorem chars_rooted : q.rooted.chars = rootChars ++ (':' :: ':' :: q.chars) := by
  simp [rooted, chars, root, Identifier.chars, rootChars, Joint.chars]

theorem suffix_chars_iff {ending : List Char} (hending : ∀ c ∈ ending, isWord c = true) :
    ending <:+ q.chars ↔ ending <:+ q.last.chars := by
  obtain ⟨front, hchars, hfront⟩ := q.exists_chars_eq_last
  rw [hchars]
  refine ⟨fun h => ?_, fun h => h.trans (List.suffix_append front _)⟩
  rcases List.suffix_or_suffix_of_suffix h (List.suffix_append front q.last.chars) with h' | ⟨more, hmore⟩
  · exact h'
  · obtain ⟨before, hbefore⟩ := h
    rw [← hmore, ← List.append_assoc] at hbefore
    have hcut : before ++ more = front := List.append_cancel_right hbefore
    -- In front of the last segment there is no word character.
    cases hlast : more.getLast? with
    | none =>
      rw [List.getLast?_eq_none_iff.1 hlast, List.nil_append] at hmore
      exact hmore ▸ List.suffix_refl _
    | some c =>
      have hword := hending c (hmore ▸ List.mem_append_left _ (List.mem_of_getLast? hlast))
      have hsep := hfront c (by rw [← hcut, List.getLast?_append, hlast]; rfl)
      rw [isSeparator_eq_false_of_isWord hword] at hsep
      cases hsep

theorem isSuffixOf_rooted :
    attributeEnding.isSuffixOf q.rooted.chars = attributeEnding.isSuffixOf q.chars := by
  have hending : ∀ c ∈ attributeEnding, isWord c = true := fun _ => isWord_of_mem_attributeEnding
  rw [Bool.eq_iff_iff, List.isSuffixOf_iff_suffix, List.isSuffixOf_iff_suffix,
    q.rooted.suffix_chars_iff hending, q.suffix_chars_iff hending, last_rooted]

theorem last_canonical_rooted : q.rooted.canonical.last = q.canonical.last := by
  rw [canonical, canonical, isSuffixOf_rooted]
  split
  · rfl
  · rw [← last_withoutRoot, withoutRoot_withEnding, withoutRoot_rooted]

theorem shortName_text_rooted : shortName q.rooted.text = shortName q.text := by
  rw [shortName_text, shortName_text, last_rooted]

theorem isFiltered_text_rooted : isFiltered q.rooted.text = isFiltered q.text := by
  rw [← isFiltered_shortName, shortName_text_rooted, isFiltered_shortName]

end QualifiedName

namespace Declaration
variable (d : Declaration) (q : QualifiedName)

theorem shortName_named_rooted :
    shortName (d.named q.rooted).text = shortName (d.named q).text := by
  cases d with
  | usage =>
    rw [named, named, QualifiedName.shortName_text, QualifiedName.shortName_text,
      QualifiedName.last_canonical_rooted]
  | _ => exact q.shortName_text_rooted

variable {d q} in
theorem admits_rooted (h : d.Admits q) : d.Admits q.rooted := by
  cases d with
  | parameter opening method name =>
    exact not_modifier_of_mem (c := ':') (by rw [QualifiedName.chars_rooted]; simp) (by decide)
  | base kind known name =>
    have hroot : constraintWord ≠ QualifiedName.root.chars := by decide
    exact fun hmem => (List.mem_cons.1 hmem).elim hroot h
  | _ => trivial

/-! ## References of a declaration -/

variable {d q} in
/-- A declaration refers to the unit that its type means, if its rule takes the name. -/
theorem refersTo_chars_iff (hkept : isFiltered q.text = false) (hadmits : d.Admits q)
    {config : ExtractionConfig} (henabled : config.isEnabled d.rule = true) {id : String} :
    RefersTo config (d.chars q.chars) id ↔ (d.takesColons = true ∨ q.IsPointed) ∧
      id = shortName (d.named q).text ∧ isFiltered id = false := by
  have hshort : shortName (d.named q).withoutRoot.text = shortName (d.named q).text := by
    rw [QualifiedName.shortName_text, QualifiedName.last_withoutRoot, QualifiedName.shortName_text]
  simp only [RefersTo, d.mem_extract_iff hkept, d.mem_namesIn_iff hkept hadmits, henabled, true_and,
    mem_keptNames_iff, List.mem_singleton, exists_eq_left]
  constructor
  · rintro ⟨name, ⟨hreads, rfl, hname⟩, rfl⟩
    exact ⟨hreads, hshort, by rw [isFiltered_shortName, hname]⟩
  · rintro ⟨hreads, rfl, hid⟩
    refine ⟨_, ⟨hreads, rfl, ?_⟩, hshort⟩
    rw [← isFiltered_shortName, hshort, hid]

end Declaration

/-- A declaration with a name that passes the filter, against the same declaration with the root in
front of the name. The rules for parameters, bases and attributes take both as the same name. Those
for fields, results and values made with new take no doubled colons, so there the root hides the
name; both texts are read alike only if the name has doubled colons of its own. -/
theorem refersTo_rooted (d : Declaration) (q : QualifiedName) (hkept : isFiltered q.text = false)
    (hadmits : d.Admits q) {config : ExtractionConfig} (henabled : config.isEnabled d.rule = true) :
    let plain := RefersTo config (d.chars q.chars)
    let rooted := RefersTo config (d.chars q.rooted.chars)
    let target := shortName (d.named q).text
    (∀ id, plain id ↔
        (d.takesColons = true ∨ q.IsPointed) ∧ id = target ∧ isFiltered id = false) ∧
      (∀ id, rooted id ↔ d.takesColons = true ∧ id = target ∧ isFiltered id = false) ∧
      ((∀ id, rooted id ↔ plain id) ↔ d.takesColons = true ∨ ¬ q.IsPointed) := by
  intro plain rooted target
  have hplain (id : String) : plain id ↔
      (d.takesColons = true ∨ q.IsPointed) ∧ id = target ∧ isFiltered id = false :=
    Declaration.refersTo_chars_iff hkept hadmits henabled
  have hrooted (id : String) :
      rooted id ↔ d.takesColons = true ∧ id = target ∧ isFiltered id = false := by
    have hkept' : isFiltered q.rooted.text = false := q.isFiltered_text_rooted.trans hkept
    have hiff : rooted id ↔ _ :=
      Declaration.refersTo_chars_iff hkept' (Declaration.admits_rooted hadmits) henabled
    rw [hiff, d.shortName_named_rooted, or_iff_left q.not_isPointed_rooted]
  refine ⟨hplain, hrooted, ?_⟩
  simp only [hplain, hrooted]
  cases hcolons : d.takesColons with
  | true => simp
  | false =>
    have htarget : isFiltered target = false := by
      have hnamed : d.named q = q := by
        cases d with
        | usage => cases hcolons
        | _ => rfl
      rw [isFiltered_shortName, hnamed, hkept]
    simp only [Bool.false_eq_true, false_and, false_or, false_iff]
    exact ⟨fun h hpointed => h target ⟨hpointed, rfl, htarget⟩, fun h _ hid => h hid.1⟩

/-! ### A field and a parameter -/

/-- The method `public void Range(Item Range)`, but for the type of the parameter. -/
def rangeParameter : Declaration :=
  .parameter ⟨"public", [], List.mem_cons_self, List.forall_mem_nil _⟩ rangeName.first rangeName.first

/-- The field `public Item Range;`, but for its type. -/
def rangeField : Declaration :=
  .field ⟨"public", [], List.mem_cons_self, List.forall_mem_nil _⟩ rangeName.first ';' List.mem_cons_self

theorem refersTo_rooted_rangeParameter :
    isFiltered itemArgument.text = false ∧ rangeParameter.Admits itemArgument ∧
      ExtractionConfig.standard.isEnabled rangeParameter.rule = true ∧
      RefersTo .standard (rangeParameter.chars itemArgument.rooted.chars) "Item" := by
  have hkept : isFiltered itemArgument.text = false := by decide
  have hadmits : itemArgument.text ∉ parameterModifiers := by decide
  have henabled : ExtractionConfig.standard.isEnabled rangeParameter.rule = true := rfl
  obtain ⟨-, hrooted, -⟩ := refersTo_rooted rangeParameter itemArgument hkept hadmits henabled
  exact ⟨hkept, hadmits, henabled,
    (hrooted "Item").2 ⟨rfl, by decide, by decide⟩⟩

theorem rootedField_refersTo_nothing :
    isFiltered "Item" = false ∧
      RefersTo .standard "public Item Range;".toList "Item" ∧
      ¬ RefersTo .standard "public global::Item Range;".toList "Item" := by
  have hkept : isFiltered itemArgument.text = false := by decide
  have hkept' : isFiltered itemArgument.rooted.text = false := by decide
  have hadmits (q : QualifiedName) : rangeField.Admits q := trivial
  have henabled : ExtractionConfig.standard.isEnabled rangeField.rule = true := rfl
  have hplain : "public Item Range;".toList = rangeField.chars itemArgument.chars := by decide
  have hrooted : "public global::Item Range;".toList = rangeField.chars itemArgument.rooted.chars := by
    decide
  have hpointed : itemArgument.IsPointed := List.forall_mem_nil _
  rw [hplain, hrooted, Declaration.refersTo_chars_iff hkept (hadmits _) henabled,
    Declaration.refersTo_chars_iff hkept' (hadmits _) henabled]
  refine ⟨by decide, ⟨.inr hpointed, by decide, by decide⟩, ?_⟩
  rintro ⟨hcolons | hpointed', -⟩
  · cases hcolons
  · exact itemArgument.not_isPointed_rooted hpointed'

end RefAtlas.Reference
