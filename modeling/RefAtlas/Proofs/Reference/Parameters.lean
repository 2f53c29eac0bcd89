import RefAtlas.Proofs.Reference.TypeNames
import RefAtlas.Reference.Rule

/-! # Lists of parameters

* `AttributeSection`, `Modifier`, `DefaultValue`, `Parameter`: parameters as they are put together,
  and their text.
* `Parameter.sealed_chars`, `Parameter.trimmed_front`: what keeps a parameter in one piece.
* `leadingType_front`: the type in front is the type of the parameter, whatever follows its name.
* `parameterNames_separated`: a list of parameters is read as the names of their types.
-/

namespace RefAtlas.Reference
open RefAtlas.Text
set_option autoImplicit false

/-- Attributes in brackets, with the white space behind them. -/
structure AttributeSection where
  body : List Char
  gap : List Char
  balanced : Sealed (fun _ => false) body
  closed : ']' ∉ body
  blank : ∀ c ∈ gap, isBlank c = true

def AttributeSection.chars (s : AttributeSection) : List Char := '[' :: (s.body ++ ']' :: s.gap)

/-- A word that may stand before a type, with the white space behind it. -/
structure Modifier where
  word : String
  gap : List Char
  known : word ∈ parameterModifiers
  apart : gap ≠ []
  blank : ∀ c ∈ gap, isBlank c = true

def Modifier.chars (m : Modifier) : List Char := m.word.toList ++ m.gap

/-- What a parameter stands for where nothing is given. -/
structure DefaultValue where
  chars : List Char
  sealed : Sealed (· == ',') chars

structure Parameter where
  sections : List AttributeSection
  modifiers : List Modifier
  type : TypeExpr
  ranks : List Nat
  name : Identifier
  value? : Option DefaultValue

namespace Parameter

def typeChars (p : Parameter) : List Char := p.type.chars ++ p.ranks.flatMap rankChars

/-- The parameter up to its name. -/
def front (p : Parameter) : List Char :=
  p.sections.flatMap AttributeSection.chars ++ (p.modifiers.flatMap Modifier.chars ++
    (p.typeChars ++ (' ' :: p.name.chars)))

def valueChars (p : Parameter) : List Char :=
  p.value?.elim [] fun value => ' ' :: '=' :: ' ' :: value.chars

def chars (p : Parameter) : List Char := p.front ++ p.valueChars

end Parameter

/-! ## White space and words -/

theorem sealed_of_blank {cs : List Char} (h : ∀ c ∈ cs, isBlank c = true) :
    Sealed (· == ',') cs :=
  Sealed.of_forall fun c hc =>
    ⟨bracketStep_of_isBlank (h c hc), beq_false_of_ne (ne_of_isBlank (h c hc) (by decide))⟩

theorem sealed_of_isWord {cs : List Char} (h : ∀ c ∈ cs, isWord c = true) : Sealed (· == ',') cs :=
  Sealed.of_forall fun c hc =>
    have hpart := isNamePart_of_isWord (h c hc)
    ⟨bracketStep_of_isNamePart hpart, beq_false_of_ne (ne_of_isNamePart hpart (by decide))⟩

theorem trimStart_append_of_blank {gap : List Char} (h : ∀ c ∈ gap, isBlank c = true)
    (cs : List Char) : trimStart (gap ++ cs) = trimStart cs :=
  List.dropWhile_append_of_pos h

/-! ## Modifiers -/

theorem not_mem_nil_parameterModifiers : (parameterModifiers.all fun m => m ≠ "") = true := by
  decide

theorem Modifier.isWord_of_mem (m : Modifier) {c : Char} (h : c ∈ m.word.toList) :
    isWord c = true :=
  List.all_eq_true.1 (List.all_eq_true.1 all_modifiers_isWord _ m.known) c h

theorem Modifier.exists_chars_eq (m : Modifier) :
    ∃ c rest, m.chars = c :: rest ∧ isWord c = true := by
  have hne : m.word ≠ "" := by
    simpa using List.all_eq_true.1 not_mem_nil_parameterModifiers _ m.known
  cases hword : m.word.toList with
  | nil => exact absurd (String.toList_eq_nil_iff.1 hword) hne
  | cons c rest =>
    exact ⟨c, rest ++ m.gap, by rw [Modifier.chars, hword, List.cons_append],
      m.isWord_of_mem (hword ▸ List.mem_cons_self)⟩

theorem Modifier.firstWord_chars_append (m : Modifier) (rest : List Char) :
    firstWord (m.chars ++ rest) = m.word.toList := by
  have hword : ∀ c ∈ m.word.toList, isBlank c = false :=
    fun c hc => isBlank_eq_false_of_isWord (m.isWord_of_mem hc)
  obtain ⟨c, gap, hgap⟩ := List.exists_cons_of_ne_nil m.apart
  have hend : firstWord (m.gap ++ rest) = [] := by
    refine firstWord_eq_nil fun d hd => m.blank d ?_
    rw [hgap] at hd ⊢
    exact Option.some.inj hd ▸ List.mem_cons_self
  rw [Modifier.chars, List.append_assoc, firstWord_append hword, hend, List.append_nil]

theorem Modifier.afterFirstWord_chars_append (m : Modifier) (rest : List Char) :
    afterFirstWord (m.chars ++ rest) = m.gap ++ rest := by
  have hsplit : firstWord (m.chars ++ rest) ++ afterFirstWord (m.chars ++ rest) =
      m.chars ++ rest := List.takeWhile_append_dropWhile
  rw [m.firstWord_chars_append, Modifier.chars, List.append_assoc] at hsplit
  rw [Modifier.chars, List.append_assoc]
  exact List.append_cancel_left hsplit

theorem trimmed_flatMap_append {γ : Type} {f : γ → List Char}
    (hf : ∀ a, ∃ c rest, f a = c :: rest ∧ isBlank c = false) (l : List γ) {cs : List Char}
    (h : Trimmed cs) : Trimmed (l.flatMap f ++ cs) := by
  cases l with
  | nil => exact h
  | cons a l =>
    obtain ⟨c, rest, ha, hc⟩ := hf a
    obtain ⟨front, d, rfl, hd⟩ := h.last
    rw [List.flatMap_cons, ha]
    refine ⟨⟨c, _, rfl, hc⟩, ⟨c :: (rest ++ l.flatMap f ++ front), d, ?_, hd⟩⟩
    simp

theorem trimmed_modifiers (modifiers : List Modifier) {cs : List Char} (h : Trimmed cs) :
    Trimmed (modifiers.flatMap Modifier.chars ++ cs) := by
  refine trimmed_flatMap_append (fun m => ?_) modifiers h
  obtain ⟨c, rest, hchars, hword⟩ := m.exists_chars_eq
  exact ⟨c, rest, hchars, isBlank_eq_false_of_isWord hword⟩

theorem afterModifiers_modifiers (modifiers : List Modifier) {cs : List Char} (h : Trimmed cs)
    (rest : List Char) :
    afterModifiers (modifiers.flatMap Modifier.chars ++ (cs ++ rest)) =
      afterModifiers (cs ++ rest) := by
  induction modifiers with
  | nil => rfl
  | cons m modifiers ih =>
    have hafter := m.afterFirstWord_chars_append (modifiers.flatMap Modifier.chars ++ (cs ++ rest))
    have htrim : trimStart (modifiers.flatMap Modifier.chars ++ (cs ++ rest)) =
        modifiers.flatMap Modifier.chars ++ (cs ++ rest) := by
      rw [← List.append_assoc]
      exact (trimmed_modifiers modifiers h).trimStart_append rest
    have hknown : parameterModifiers.contains (String.ofList (firstWord
        (m.chars ++ (modifiers.flatMap Modifier.chars ++ (cs ++ rest))))) = true := by
      rw [m.firstWord_chars_append, String.ofList_toList]
      exact List.contains_iff_mem.2 m.known
    rw [List.flatMap_cons, List.append_assoc, afterModifiers, dif_pos, hafter,
      trimStart_append_of_blank m.blank, htrim, ih]
    refine ⟨hknown, ?_⟩
    rw [hafter]
    exact List.append_ne_nil_of_left_ne_nil m.apart _

/-! ## Sections of attributes -/

theorem afterSections_inside {body : List Char} (h : ']' ∉ body) (rest : List Char) :
    afterSections true (body ++ ']' :: rest) = afterSections false rest := by
  induction body with
  | nil => rfl
  | cons c body ih =>
    have hc : c ≠ ']' := fun heq => h (heq ▸ List.mem_cons_self)
    rw [List.cons_append, afterSections, bne_iff_ne.2 hc,
      ih fun hmem => h (List.mem_cons_of_mem c hmem)]

theorem afterSections_blank {gap : List Char} (h : ∀ c ∈ gap, isBlank c = true)
    (rest : List Char) : afterSections false (gap ++ rest) = afterSections false rest := by
  induction gap with
  | nil => rfl
  | cons c gap ih =>
    obtain ⟨hc, hgap⟩ := List.forall_mem_cons.1 h
    rw [List.cons_append, afterSections, beq_false_of_ne (ne_of_isBlank hc (by decide)),
      if_neg Bool.false_ne_true, if_pos hc, ih hgap]

theorem afterSections_sections (sections : List AttributeSection) (rest : List Char) :
    afterSections false (sections.flatMap AttributeSection.chars ++ rest) =
      afterSections false rest := by
  induction sections with
  | nil => rfl
  | cons s sections ih =>
    have hopen : ∀ tail, afterSections false ('[' :: tail) = afterSections true tail := fun _ => rfl
    rw [List.flatMap_cons, List.append_assoc, AttributeSection.chars, List.cons_append,
      List.append_assoc, List.cons_append, hopen, afterSections_inside s.closed,
      afterSections_blank s.blank, ih]

theorem AttributeSection.sealed_chars (s : AttributeSection) : Sealed (· == ',') s.chars :=
  .bracket rfl rfl s.balanced rfl (sealed_of_blank s.blank)

/-! ## Types with array suffixes -/

theorem sealed_rankChars (commas : Nat) {p : Char → Bool} (hfree : p '[' = false) :
    Sealed p (rankChars commas) := by
  refine .bracket rfl hfree (Sealed.of_forall fun c hc => ?_) rfl .nil
  rw [List.eq_of_mem_replicate hc]
  exact ⟨rfl, rfl⟩

theorem Sealed.flatMap {γ : Type} {p : Char → Bool} {f : γ → List Char}
    (h : ∀ a, Sealed p (f a)) (l : List γ) : Sealed p (l.flatMap f) := by
  induction l with
  | nil => exact .nil
  | cons a l ih =>
    rw [List.flatMap_cons]
    exact (h a).append ih

/-- An array suffix makes no modifier out of the first word. -/
theorem TypeText.unmodified_ranks {cs : List Char} (h : TypeText cs) (ranks : List Nat)
    {tail : List Char} (htail : ∀ c ∈ tail.head?, isBlank c = true) :
    String.ofList (firstWord (cs ++ ranks.flatMap rankChars ++ tail)) ∉ parameterModifiers := by
  cases ranks with
  | nil =>
    rw [List.flatMap_nil, List.append_nil]
    exact h.unmodified tail htail
  | cons commas ranks =>
    rw [List.append_assoc]
    by_cases hblank : ∀ c ∈ cs, isBlank c = false
    · exact not_modifier_of_mem (mem_firstWord hblank (c := '[') rfl) (by decide)
    · have hself := h.unmodified [] (by simp)
      rw [List.append_nil] at hself
      rwa [firstWord_append_of_blank hblank]

namespace Parameter

theorem sealed_typeChars (p : Parameter) :
    Sealed (fun c => c == ',' || isBlank c) p.typeChars :=
  p.type.typeText.sealed.append (Sealed.flatMap (fun commas => sealed_rankChars commas rfl) _)

theorem trimmed_typeChars (p : Parameter) : Trimmed p.typeChars :=
  trimmed_ranks p.type.typeText.trimmed p.ranks

theorem typeNames_typeChars (p : Parameter) : typeNames p.typeChars = keptNames p.type.names :=
  (typeNames_congr (bareType_ranks p.type.typeText p.ranks)).trans (typeNames_chars p.type)

/-! ## Parameters -/

theorem trimmed_name (i : Identifier) : Trimmed i.chars :=
  Trimmed.of_forall (List.cons_ne_nil _ _) fun _ hc =>
    isBlank_eq_false_of_isWord (i.isWord_of_mem hc)

theorem trimmed_declared (p : Parameter) : Trimmed (p.typeChars ++ (' ' :: p.name.chars)) :=
  p.trimmed_typeChars.append [' '] (trimmed_name p.name)

theorem trimmed_front (p : Parameter) : Trimmed p.front :=
  trimmed_flatMap_append (fun _ => ⟨'[', _, rfl, rfl⟩) p.sections
    (trimmed_modifiers p.modifiers p.trimmed_declared)

theorem sealed_chars (p : Parameter) : Sealed (· == ',') p.chars := by
  have hmodifier (m : Modifier) : Sealed (· == ',') m.chars :=
    (sealed_of_isWord fun c hc => m.isWord_of_mem hc).append (sealed_of_blank m.blank)
  have htype : Sealed (· == ',') p.typeChars :=
    p.sealed_typeChars.mono fun _ hc => (Bool.or_eq_false_iff.1 hc).1
  have hname : Sealed (· == ',') (' ' :: p.name.chars) :=
    .char rfl rfl (sealed_of_isWord fun c hc => p.name.isWord_of_mem hc)
  have hvalue : Sealed (· == ',') p.valueChars := by
    rw [valueChars]
    cases p.value? with
    | none => exact .nil
    | some value => exact .char rfl rfl (.char rfl rfl (.char rfl rfl value.sealed))
  exact ((Sealed.flatMap AttributeSection.sealed_chars p.sections).append
    ((Sealed.flatMap hmodifier p.modifiers).append (htype.append hname))).append hvalue

theorem afterSections_front (p : Parameter) (rest : List Char) :
    afterSections false (p.front ++ rest) =
      p.modifiers.flatMap Modifier.chars ++ (p.typeChars ++ (' ' :: (p.name.chars ++ rest))) := by
  have hhead : ∃ c tail, p.modifiers.flatMap Modifier.chars ++
      (p.typeChars ++ (' ' :: (p.name.chars ++ rest))) = c :: tail ∧ isBlank c = false ∧ c ≠ '[' := by
    cases p.modifiers with
    | nil =>
      obtain ⟨c, tail, hc, hblank⟩ := p.type.typeText.trimmed.head
      refine ⟨c, tail ++ (p.ranks.flatMap rankChars ++ (' ' :: (p.name.chars ++ rest))), ?_,
        hblank, ?_⟩
      · simp [typeChars, hc]
      · rintro rfl
        exact p.type.typeText.unranked (hc ▸ List.mem_cons_self)
    | cons m modifiers =>
      obtain ⟨c, tail, hc, hword⟩ := m.exists_chars_eq
      exact ⟨c, _, by rw [List.flatMap_cons, hc, List.cons_append, List.cons_append],
        isBlank_eq_false_of_isWord hword,
        ne_of_isNamePart (isNamePart_of_isWord hword) (by decide)⟩
  obtain ⟨c, tail, heq, hblank, hne⟩ := hhead
  have hchars : p.front ++ rest = p.sections.flatMap AttributeSection.chars ++
      (p.modifiers.flatMap Modifier.chars ++ (p.typeChars ++ (' ' :: (p.name.chars ++ rest)))) := by
    simp [front]
  rw [hchars, afterSections_sections, heq, afterSections_cons hblank hne]

/-- The type in front of a parameter is its type, whatever follows its name. -/
theorem leadingType_front (p : Parameter) (rest : List Char) :
    leadingType (p.front ++ rest) = p.typeChars := by
  have hsealed : Sealed isBlank p.typeChars :=
    p.sealed_typeChars.mono fun _ hc => (Bool.or_eq_false_iff.1 hc).2
  have hunmodified : String.ofList (firstWord
      (p.typeChars ++ (' ' :: (p.name.chars ++ trimEnd rest)))) ∉ parameterModifiers :=
    p.type.typeText.unmodified_ranks p.ranks (by simp [isBlank])
  rw [leadingType, p.trimmed_front.trim_append, afterSections_front,
    afterModifiers_modifiers p.modifiers p.trimmed_typeChars,
    afterModifiers_of_unmodified hunmodified, hsealed.typeSpan_append, typeSpan_label,
    List.append_nil, p.trimmed_typeChars.trim_eq]

end Parameter

/-- A list of parameters is read as the names of their types, in order: every section, modifier,
name and value is left out, and no parameter is split, merged or lost. -/
theorem parameterNames_separated (parameters : List Parameter) :
    parameterNames (separated (parameters.map Parameter.chars)) =
      parameters.flatMap fun p =>
        (p.type.names.map fun q => q.withoutRoot.text).filter fun name => !isFiltered name := by
  have hsplit : splitTopLevel (separated (parameters.map Parameter.chars)) =
      parameters.map fun p => p.front ++ trimEnd p.valueChars := by
    have htrim (p : Parameter) : trim p.chars = p.front ++ trimEnd p.valueChars :=
      p.trimmed_front.trim_append p.valueChars
    rw [splitTopLevel_separated_eq (List.forall_mem_map.2 fun p _ => p.sealed_chars), List.map_map]
    simp only [Function.comp_def, htrim]
    refine List.filter_eq_self.2 (List.forall_mem_map.2 fun p _ => ?_)
    simp [p.trimmed_front.ne_nil]
  have hnames (p : Parameter) : typeNames (leadingType (p.front ++ trimEnd p.valueChars)) =
      keptNames p.type.names := by
    rw [p.leadingType_front, p.typeNames_typeChars]
  rw [parameterNames, hsplit, List.flatMap_map]
  simp only [hnames]
  rfl

end RefAtlas.Reference
