import RefAtlas.Proofs.Reference.TypeExpr

/-! # The names of type expressions

The readings of types take every expression apart as it was put together.

* `keptName_chars`: a name is read without the root at its start.
* `bareType_ranks`, `bareType_nullable`: array suffixes and question marks at the end are left out.
* `leadingType_element`: the label of an element is left out.
* `typeNames_expr`: the names found are the names of the expression that are not filtered.
-/

namespace RefAtlas.Reference
open RefAtlas.Text
set_option autoImplicit false

/-! ## Names -/

theorem continuesName_words {cs : List Char} (h : ∀ c ∈ cs, isWord c = true) (rest : List Char) :
    continuesName false (cs ++ rest) = continuesName false rest := by
  induction cs with
  | nil => rfl
  | cons c cs ih =>
    have hword := h c List.mem_cons_self
    have hpoint : c ≠ '.' := by rintro rfl; exact absurd hword (by decide)
    have hcolon : c ≠ ':' := by rintro rfl; exact absurd hword (by decide)
    have hstep : continuesName false (c :: (cs ++ rest)) =
        (isWord c && continuesName false (cs ++ rest)) := by
      rw [continuesName]
      · exact fun hc => absurd hc hpoint
      · exact fun _ hc _ => absurd hc hcolon
    rw [List.cons_append, hstep, hword, Bool.true_and]
    exact ih fun d hd => h d (List.mem_cons_of_mem c hd)

theorem continuesName_identifier (i : Identifier) (rest : List Char) :
    continuesName true (i.chars ++ rest) = continuesName false rest := by
  rw [Identifier.chars, List.cons_append, continuesName, i.starts, Bool.true_and,
    continuesName_words i.continues]

theorem continuesName_joint (joint : Joint) (rest : List Char) :
    continuesName false (joint.chars ++ rest) = continuesName true rest := by
  cases joint <;> simp [Joint.chars, continuesName]

namespace QualifiedName

theorem isQualifiedName_chars (q : QualifiedName) : isQualifiedName q.chars = true := by
  obtain ⟨first, more⟩ := q
  rw [isQualifiedName, chars, continuesName_identifier]
  induction more with
  | nil => rfl
  | cons s more ih =>
    rw [List.flatMap_cons, List.append_assoc, continuesName_joint, continuesName_identifier]
    exact ih

end QualifiedName

/-- An identifier with a root behind it that is not part of a word. -/
theorem identifier_eq_root {i : Identifier} {tail rest : List Char}
    (htail : ∀ c ∈ tail.head?, isWord c = false)
    (h : i.chars ++ tail = QualifiedName.rootChars ++ (':' :: ':' :: rest)) :
    i.chars = QualifiedName.rootChars ∧ tail = ':' :: ':' :: rest := by
  have htail' : tail.takeWhile isWord = [] := by
    cases tail with
    | nil => rfl
    | cons c tail => simp [htail c rfl]
  have hroot : ∀ c ∈ QualifiedName.rootChars, isWord c = true :=
    List.all_eq_true.1 (by decide)
  -- The root and the identifier are both the word in front.
  have hwords := congrArg (List.takeWhile isWord) h
  rw [List.takeWhile_append_of_pos fun c hc => i.isWord_of_mem hc, htail', List.append_nil,
    List.takeWhile_append_of_pos hroot] at hwords
  have hcolon : (':' :: ':' :: rest).takeWhile isWord = [] := by
    rw [List.takeWhile_cons_of_neg (by decide)]
  rw [hcolon, List.append_nil] at hwords
  rw [hwords] at h
  exact ⟨hwords, List.append_cancel_left h⟩

theorem withoutGlobal_of_forall_ne {cs : List Char}
    (h : ∀ rest, cs ≠ QualifiedName.rootChars ++ (':' :: ':' :: rest)) : withoutGlobal cs = cs := by
  unfold withoutGlobal
  split
  · rename_i rest
    exact absurd rfl (h rest)
  · rfl

theorem withoutGlobal_chars (q : QualifiedName) : withoutGlobal q.chars = q.withoutRoot.chars := by
  obtain ⟨first, more⟩ := q
  match more with
  | [] =>
    refine withoutGlobal_of_forall_ne fun rest h => ?_
    have hroot := identifier_eq_root (by simp) h
    cases hroot.2
  | (.point, next) :: more =>
    refine withoutGlobal_of_forall_ne fun rest h => ?_
    have hroot := identifier_eq_root (by simp [Joint.chars]; decide) h
    simp [Joint.chars] at hroot
  | (.colons, next) :: more =>
    by_cases hfirst : first.chars = QualifiedName.rootChars
    · have hself : QualifiedName.withoutRoot ⟨first, (.colons, next) :: more⟩ = ⟨next, more⟩ := by
        simp [QualifiedName.withoutRoot, hfirst]
      have hchars : QualifiedName.chars ⟨first, (.colons, next) :: more⟩ =
          QualifiedName.rootChars ++ (':' :: ':' :: QualifiedName.chars ⟨next, more⟩) := by
        simp [QualifiedName.chars, hfirst, Joint.chars]
      rw [hself, hchars]
      rfl
    · have hself : QualifiedName.withoutRoot ⟨first, (.colons, next) :: more⟩ =
          ⟨first, (.colons, next) :: more⟩ := by
        simp [QualifiedName.withoutRoot, hfirst]
      rw [hself]
      refine withoutGlobal_of_forall_ne fun rest h => hfirst ?_
      exact (identifier_eq_root (by simp [Joint.chars]; decide) h).1

theorem keptName_chars (q : QualifiedName) :
    keptName q.chars = [q.withoutRoot.text].filter fun name => !isFiltered name := by
  rw [keptName, withoutGlobal_chars, QualifiedName.isQualifiedName_chars, Bool.true_and]
  cases hfiltered : isFiltered q.withoutRoot.text <;>
    simp_all [QualifiedName.text]

/-! ## Array suffixes and question marks -/

theorem dropEndWhile_concat_ne {p : Char → Bool} (cs : List Char) {c : Char} (h : p c = false) :
    dropEndWhile p (cs ++ [c]) = cs ++ [c] := by
  rw [dropEndWhile_concat, h, if_neg Bool.false_ne_true]

theorem withoutArraySuffix_of_not_mem {cs : List Char} (h : '[' ∉ cs) :
    withoutArraySuffix cs = cs := by
  rw [withoutArraySuffix, if_neg (by simpa using h)]

theorem bareType_of_not_mem {cs : List Char} (htrimmed : Trimmed cs) (h : '[' ∉ cs) :
    bareType cs = trim (dropEndWhile (· == '?') cs) := by
  rw [bareType, htrimmed.trim_eq, withoutArraySuffix_of_not_mem h]

theorem trimmed_ranks {cs : List Char} (h : Trimmed cs) (ranks : List Nat) :
    Trimmed (cs ++ ranks.flatMap rankChars) := by
  induction ranks generalizing cs with
  | nil => rwa [List.flatMap_nil, List.append_nil]
  | cons commas ranks ih =>
    have hfirst : Trimmed (cs ++ rankChars commas) :=
      h.append ('[' :: List.replicate commas ',') (Trimmed.singleton rfl)
    rw [List.flatMap_cons, ← List.append_assoc]
    exact ih hfirst

theorem bareType_ranks {cs : List Char} (h : TypeText cs) (ranks : List Nat) :
    bareType (cs ++ ranks.flatMap rankChars) = bareType cs := by
  cases ranks with
  | nil => rw [List.flatMap_nil, List.append_nil]
  | cons commas ranks =>
    have hends := trimmed_ranks h.trimmed (commas :: ranks)
    have hbefore : (cs ++ (commas :: ranks).flatMap rankChars).takeWhile (· != '[') = cs := by
      have hother : ∀ c ∈ cs, (c != '[') = true := by
        intro c hc
        refine bne_iff_ne.2 ?_
        rintro rfl
        exact h.unranked hc
      rw [List.takeWhile_append_of_pos hother]
      simp [rankChars]
    have hmem : '[' ∈ cs ++ (commas :: ranks).flatMap rankChars := by
      simp [rankChars]
    have hsuffix : withoutArraySuffix (cs ++ (commas :: ranks).flatMap rankChars) = cs := by
      rw [withoutArraySuffix, if_pos (by simpa using hmem), hbefore, h.trimmed.trimEnd_eq]
    rw [bareType_of_not_mem h.trimmed h.unranked, bareType, hends.trim_eq, hsuffix]

theorem bareType_nullable {cs : List Char} (htrimmed : Trimmed cs) (h : '[' ∉ cs) :
    bareType (cs ++ ['?']) = bareType cs := by
  have hends : Trimmed (cs ++ ['?']) := htrimmed.append [] (Trimmed.singleton rfl)
  rw [bareType_of_not_mem hends (by simpa using h), bareType_of_not_mem htrimmed h,
    dropEndWhile_concat]
  rfl

theorem bareType_concat {cs : List Char} {c : Char} (htrimmed : Trimmed (cs ++ [c]))
    (h : '[' ∉ cs ++ [c]) (hc : (c == '?') = false) : bareType (cs ++ [c]) = cs ++ [c] := by
  rw [bareType_of_not_mem htrimmed h, dropEndWhile_concat_ne (p := (· == '?')) cs hc,
    htrimmed.trim_eq]

theorem typeNames_eq (cs : List Char) : typeNames cs =
    match tupleBody? (bareType cs) with
    | some body => (splitTopLevel body).flatMap fun part => typeNames (leadingType part)
    | none =>
      match genericParts? (bareType cs) with
      | some parts => (splitTopLevel parts.2).flatMap typeNames ++ keptName parts.1
      | none => keptName (bareType cs) := by
  rw [typeNames]
  split
  · rename_i body hbody
    simp [hbody]
  · rename_i hbody
    rw [hbody]
    split
    · rename_i parts hparts
      simp [hparts]
    · rename_i hparts
      simp [hparts]

theorem typeNames_congr {cs ds : List Char} (h : bareType cs = bareType ds) :
    typeNames cs = typeNames ds := by
  rw [typeNames_eq, typeNames_eq, h]

/-! ## The type of an element -/

theorem afterSections_cons {c : Char} (hblank : isBlank c = false) (hne : c ≠ '[')
    (rest : List Char) : afterSections false (c :: rest) = c :: rest := by
  rw [afterSections, beq_false_of_ne hne, if_neg Bool.false_ne_true, hblank,
    if_neg Bool.false_ne_true]

theorem afterSections_of_trimmed {cs : List Char} (h : Trimmed cs) (hrank : '[' ∉ cs) :
    afterSections false cs = cs := by
  obtain ⟨c, rest, rfl, hc⟩ := h.head
  exact afterSections_cons hc (fun heq => hrank (heq ▸ List.mem_cons_self)) rest

theorem afterModifiers_of_unmodified {cs : List Char}
    (h : String.ofList (firstWord cs) ∉ parameterModifiers) : afterModifiers cs = cs := by
  rw [afterModifiers, dif_neg]
  exact fun hmodifier => h (List.contains_iff_mem.1 hmodifier.1)

theorem typeSpan_label (label : Identifier) (rest : List Char) :
    typeSpan 0 (' ' :: (label.chars ++ rest)) = [] := by
  have hword := isNamePart_of_isWord (isWord_of_isNameStart label.starts)
  have hne : ∀ d, isNamePart d = false → (label.first == d) = false :=
    fun d hd => beq_false_of_ne (ne_of_isNamePart hword hd)
  have hends : continuesType (' ' :: (label.chars ++ rest)) = false := by
    have htrim : trimStart (' ' :: (label.chars ++ rest)) = label.chars ++ rest := by
      rw [trimStart, List.dropWhile_cons_of_pos rfl, Identifier.chars, List.cons_append,
        List.dropWhile_cons_of_neg (by simp [isBlank_eq_false_of_isNamePart hword])]
    rw [continuesType, htrim]
    simp [Identifier.chars, hne '<' (by decide), hne '[' (by decide), hne '?' (by decide)]
  rw [typeSpan, hends]
  rfl

theorem leadingType_element {cs : List Char} (h : TypeText cs) (label : Option Identifier) :
    leadingType (elementChars cs label) = cs := by
  obtain ⟨tail, hchars, hblank, hspan⟩ : ∃ tail, elementChars cs label = cs ++ tail ∧
      (∀ c ∈ tail.head?, isBlank c = true) ∧ typeSpan 0 tail = [] := by
    cases label with
    | none => exact ⟨[], (List.append_nil cs).symm, by simp, rfl⟩
    | some label =>
      have hspan := typeSpan_label label []
      rw [List.append_nil] at hspan
      exact ⟨' ' :: label.chars, rfl, by simp [isBlank], hspan⟩
  have hitem := h.element label
  rw [leadingType, hitem.trimmed.trim_eq,
    afterSections_of_trimmed hitem.trimmed hitem.unranked, hchars,
    afterModifiers_of_unmodified (h.unmodified tail hblank), h.sealed_blank.typeSpan_append, hspan,
    List.append_nil, h.trimmed.trim_eq]

/-! ## Generic types and tuples -/

theorem splitTopLevel_items {texts : List (List Char)} (h : ∀ cs ∈ texts, ItemText cs) :
    splitTopLevel (separated texts) = texts :=
  splitTopLevel_separated fun cs hcs => ⟨(h cs hcs).sealed, (h cs hcs).trimmed⟩

theorem tupleBody?_name (q : QualifiedName) (rest : List Char) :
    tupleBody? (q.chars ++ rest) = none := by
  have hword := isNamePart_of_isWord (isWord_of_isNameStart q.first.starts)
  have hne : q.first.first ≠ '(' := ne_of_isNamePart hword (by decide)
  rw [QualifiedName.chars, Identifier.chars, List.cons_append, List.cons_append, tupleBody?]
  exact fun _ hc => hne (List.cons.inj hc).1

theorem ne_angle_of_mem {q : QualifiedName} {c : Char} (h : c ∈ q.chars) : (c != '<') = true :=
  bne_iff_ne.2 (ne_of_isNamePart (q.isNamePart_of_mem h) (by decide))

theorem genericParts?_name (q : QualifiedName) : genericParts? q.chars = none := by
  have hdrop : q.chars.dropWhile (· != '<') = [] :=
    List.dropWhile_eq_nil_iff.2 fun c hc => ne_angle_of_mem hc
  rw [genericParts?, hdrop]

theorem upToClosingAngle_concat (cs : List Char) : upToClosingAngle (cs ++ ['>']) = cs := by
  rw [upToClosingAngle, if_pos (by simp), dropEndWhile_concat_ne cs rfl, List.dropLast_concat]

theorem upToClosingAngle_of_not_mem {cs : List Char} (h : '>' ∉ cs) : upToClosingAngle cs = cs := by
  rw [upToClosingAngle, if_neg (by simpa using h)]

theorem genericParts?_generic (q : QualifiedName) (cs : List Char) :
    genericParts? (q.chars ++ ('<' :: cs)) = some (q.chars, upToClosingAngle cs) := by
  have hname : ∀ c ∈ q.chars, (c != '<') = true := fun c hc => ne_angle_of_mem hc
  have hdrop : (q.chars ++ ('<' :: cs)).dropWhile (· != '<') = '<' :: cs := by
    rw [List.dropWhile_append_of_pos hname]
    rfl
  have htake : (q.chars ++ ('<' :: cs)).takeWhile (· != '<') = q.chars := by
    rw [List.takeWhile_append_of_pos hname]
    simp
  rw [genericParts?, hdrop, htake]
  simp only [q.trimmed.trim_eq]

theorem tupleBody?_tuple (cs : List Char) : tupleBody? ('(' :: (cs ++ [')'])) = some cs := by
  simp [tupleBody?]

/-! ## Types -/

/-- The names that may be references, each without the root at its start. -/
def keptNames (names : List QualifiedName) : List String :=
  (names.map fun q => q.withoutRoot.text).filter fun name => !isFiltered name

theorem keptNames_append (names more : List QualifiedName) :
    keptNames (names ++ more) = keptNames names ++ keptNames more := by
  rw [keptNames, List.map_append, List.filter_append]
  rfl

theorem typeNames_name (q : QualifiedName) : typeNames q.chars = keptNames [q] := by
  obtain ⟨rest, c, hlast, -⟩ := q.trimmed.last
  have hmem : c ∈ q.chars := hlast ▸ List.mem_concat_self
  have hne : (c == '?') = false :=
    beq_false_of_ne (ne_of_isNamePart (q.isNamePart_of_mem hmem) (by decide))
  have hbare : bareType q.chars = q.chars := by
    rw [hlast]
    exact bareType_concat (hlast ▸ q.trimmed) (hlast ▸ q.unranked) hne
  have htuple := tupleBody?_name q []
  rw [List.append_nil] at htuple
  rw [typeNames_eq, hbare, htuple, genericParts?_name]
  exact keptName_chars q

/-- The arguments of a generic type, which may be cut off, are read in front of its name. -/
theorem typeNames_open (q : QualifiedName) {cs : List Char} {c : Char} (hc : (c == '?') = false)
    (hblank : isBlank c = false) (h : '[' ∉ cs ++ [c]) :
    typeNames (q.chars ++ ('<' :: (cs ++ [c]))) =
      (splitTopLevel (upToClosingAngle (cs ++ [c]))).flatMap typeNames ++ keptNames [q] := by
  have hchars : q.chars ++ ('<' :: (cs ++ [c])) = q.chars ++ ('<' :: cs) ++ [c] := by simp
  have hends : Trimmed (q.chars ++ ('<' :: cs) ++ [c]) := by
    rw [List.append_assoc]
    exact q.trimmed.append ('<' :: cs) (Trimmed.singleton hblank)
  have hrank : '[' ∉ q.chars ++ ('<' :: cs) ++ [c] := by
    rw [← hchars]
    simpa [q.unranked] using h
  have hbare : bareType (q.chars ++ ('<' :: (cs ++ [c]))) = q.chars ++ ('<' :: (cs ++ [c])) := by
    rw [hchars]
    exact bareType_concat hends hrank hc
  have hname : keptName q.chars = keptNames [q] := keptName_chars q
  rw [typeNames_eq, hbare, tupleBody?_name, genericParts?_generic]
  simp only [hname]

theorem typeNames_generic (q : QualifiedName) {texts : List (List Char)}
    (h : ∀ cs ∈ texts, ItemText cs) : typeNames (q.chars ++ ('<' :: (separated texts ++ ['>']))) =
      texts.flatMap typeNames ++ keptNames [q] := by
  have htexts := not_mem_separated h
  rw [typeNames_open q rfl rfl (by simpa using htexts), upToClosingAngle_concat,
    splitTopLevel_items h]

theorem typeNames_tuple {texts : List (List Char)} (h : ∀ cs ∈ texts, ItemText cs) :
    typeNames ('(' :: (separated texts ++ [')'])) =
      texts.flatMap fun part => typeNames (leadingType part) := by
  have hchars : '(' :: (separated texts ++ [')']) = '(' :: separated texts ++ [')'] := rfl
  have hbare : bareType ('(' :: (separated texts ++ [')'])) = '(' :: (separated texts ++ [')']) := by
    rw [hchars]
    have htext := typeText_tuple h
    exact bareType_concat (hchars ▸ htext.trimmed) (hchars ▸ htext.unranked) rfl
  rw [typeNames_eq, hbare, tupleBody?_tuple]
  simp only [splitTopLevel_items h]

mutual

theorem typeNames_chars : ∀ t : TypeExpr, typeNames t.chars = keptNames t.names
  | .name q => typeNames_name q.toQualifiedName
  | .generic base arguments => by
    have hbase := typeNames_generic base.toQualifiedName arguments.itemText
    rw [flatMap_typeNames_texts arguments, ← keptNames_append] at hbase
    exact hbase
  | .nullable type => by
    have hbare : typeNames (type.chars ++ ['?']) = typeNames type.chars :=
      typeNames_congr (bareType_nullable type.typeText.trimmed type.typeText.unranked)
    exact hbare.trans (typeNames_chars type)
  | .tuple type label more => by
    have hfirst := type.typeText.element label
    have htuple := typeNames_tuple (List.forall_mem_cons.2 ⟨hfirst, more.itemText⟩)
    rw [List.flatMap_cons, leadingType_element type.typeText, typeNames_chars type,
      flatMap_leadingType_texts more, ← keptNames_append] at htuple
    exact htuple

theorem flatMap_typeNames_texts : ∀ arguments : Arguments,
    arguments.texts.flatMap typeNames = keptNames arguments.names
  | .last type => by
    rw [Arguments.texts, List.flatMap_singleton, typeNames_chars type]
    rfl
  | .cons type more => by
    rw [Arguments.texts, List.flatMap_cons, typeNames_chars type, flatMap_typeNames_texts more,
      ← keptNames_append]
    rfl

theorem flatMap_leadingType_texts : ∀ elements : Elements,
    (elements.texts.flatMap fun part => typeNames (leadingType part)) = keptNames elements.names
  | .last type label => by
    rw [Elements.texts, List.flatMap_singleton, leadingType_element type.typeText,
      typeNames_chars type]
    rfl
  | .cons type label more => by
    rw [Elements.texts, List.flatMap_cons, leadingType_element type.typeText,
      typeNames_chars type, flatMap_leadingType_texts more, ← keptNames_append]
    rfl

end

/-- Every type, with array suffixes behind it or without them, is read as the names in it. -/
theorem typeNames_expr (t : TypeExpr) (ranks : List Nat) :
    typeNames (t.chars ++ ranks.flatMap rankChars) =
      (t.names.map fun q => q.withoutRoot.text).filter fun name => !isFiltered name := by
  rw [typeNames_congr (bareType_ranks t.typeText ranks)]
  exact typeNames_chars t

end RefAtlas.Reference
