import RefAtlas.Proofs.Reference.Filter

/-! # What directives add to the references of a text

Names are looked up in the table that the directives of a text make. An alias may stand for any other
name. An imported path stands for a name in which it ends, so nothing is gained by it once names are
cut down to their last segments.

* `aliasesIn`: the aliases of a text; `LastTarget`: what an alias stands for in the end.
* `aliasTarget?_directives_iff`: the table answers with the last target.
* `extractThrough`: the references when names are looked up in any table.
* `exists_shortName_extractThrough_iff`: the last segments of these references.
-/

namespace RefAtlas.Reference
set_option autoImplicit false

/-! ## The aliases of a text -/

/-- The alias that a directive introduces, in front of its target. -/
def aliasOf? (place : Cursor) : Option (String × String) :=
  match place.piece? 1, place.piece? 2 with
  | some short, some path => some (String.ofList short, String.ofList path)
  | _, _ => none

def aliasesIn (text : List Char) : List (String × String) :=
  (directivePattern.findAll (withoutByteOrderMark text)).filterMap aliasOf?

/-- Of all targets that a list gives a name, this one is the last. -/
def LastTarget (aliases : List (String × String)) (short target : String) : Prop :=
  ∃ before after, aliases = before ++ (short, target) :: after ∧ ∀ e ∈ after, e.1 ≠ short

theorem find?_reverse_iff_lastTarget {aliases : List (String × String)} {short target : String} :
    (aliases.reverse.find? fun e => e.1 == short).map Prod.snd = some target ↔
      LastTarget aliases short target := by
  rw [Option.map_eq_some_iff]
  constructor
  · rintro ⟨e, hfind, rfl⟩
    obtain ⟨hkey, later, earlier, hsplit, hlater⟩ := List.find?_eq_some_iff_append.1 hfind
    have hshort : e.1 = short := by simpa using hkey
    refine ⟨earlier.reverse, later.reverse, ?_, fun e' he' => ?_⟩
    · have hback := congrArg List.reverse hsplit
      simpa [← hshort] using hback
    · simpa using hlater e' (List.mem_reverse.1 he')
  · rintro ⟨before, after, rfl, hafter⟩
    refine ⟨(short, target), ?_, rfl⟩
    rw [List.find?_eq_some_iff_append]
    refine ⟨by simp, after.reverse, before.reverse, by simp, fun e he => ?_⟩
    simpa using hafter e (List.mem_reverse.1 he)

theorem aliases_recordDirective (t : AliasTable) (place : Cursor) :
    (recordDirective t place).aliases = (aliasOf? place).toList ++ t.aliases := by
  unfold recordDirective aliasOf?
  cases place.piece? 1 with
  | none =>
    cases place.piece? 2 with
    | none => rfl
    | some path =>
      -- an import changes the other half of the table
      have himport : (t.addImport (String.ofList path)).aliases = t.aliases := by
        unfold AliasTable.addImport
        split <;> rfl
      exact himport
  | some short => cases place.piece? 2 <;> rfl

theorem aliases_foldl_recordDirective (places : List Cursor) (t : AliasTable) :
    (places.foldl recordDirective t).aliases = (places.filterMap aliasOf?).reverse ++ t.aliases := by
  induction places generalizing t with
  | nil => rfl
  | cons place rest ih =>
    rw [List.foldl_cons, ih, aliases_recordDirective, List.filterMap_cons]
    cases aliasOf? place with
    | none => rfl
    | some e => simp

theorem aliasTarget?_directives_iff {text : List Char} {short target : String} :
    (directives (withoutByteOrderMark text)).aliasTarget? short = some target ↔
      LastTarget (aliasesIn text) short target := by
  have haliases : (directives (withoutByteOrderMark text)).aliases = (aliasesIn text).reverse := by
    rw [directives, aliases_foldl_recordDirective, aliasesIn]
    exact List.append_nil _
  rw [AliasTable.aliasTarget?, haliases, find?_reverse_iff_lastTarget]

/-! ## Looking names up -/

theorem shortName_of_importOf? {t : AliasTable} {name path : String}
    (h : t.importOf? name = some path) : shortName path = name := by
  have hfound := List.find?_some h
  simp only [Bool.and_eq_true, beq_iff_eq] at hfound
  exact hfound.2

theorem expand_cases {t : AliasTable} {name long : String} (h : t.expand name = some long) :
    t.aliasTarget? name = some long ∨ shortName long = name := by
  unfold AliasTable.expand at h
  cases halias : t.aliasTarget? name with
  | some target =>
    rw [halias] at h
    exact .inl h
  | none =>
    rw [halias] at h
    exact .inr (shortName_of_importOf? h)

theorem expand_of_aliasTarget? {t : AliasTable} {name target : String}
    (h : t.aliasTarget? name = some target) : t.expand name = some target := by
  unfold AliasTable.expand
  rw [h]

theorem mem_withExpansion_iff {t : AliasTable} {name other : String} :
    other ∈ withExpansion t name ↔
      other = name ∨ t.expand name = some other ∧ isFiltered other = false := by
  unfold withExpansion
  cases t.expand name with
  | none => simp
  | some long =>
    by_cases hlong : isFiltered long = true
    · have hnone : ¬ (some long = some other ∧ isFiltered other = false) := by
        rintro ⟨hsame, hkept⟩
        obtain rfl := Option.some.inj hsame
        rw [hlong] at hkept
        cases hkept
      simp only [if_pos hlong, List.mem_singleton, hnone, or_false]
    · simp only [if_neg hlong, List.mem_cons, List.not_mem_nil, or_false, Option.some.injEq]
      constructor
      · rintro (rfl | rfl)
        · exact .inr ⟨rfl, Bool.eq_false_iff.2 hlong⟩
        · exact .inl rfl
      · rintro (rfl | ⟨rfl, -⟩)
        · exact .inr rfl
        · exact .inl rfl

/-! ## References through a table -/

/-- The references of a text when names are looked up in a given table. -/
def extractThrough (aliases : AliasTable) (config : ExtractionConfig) (text : List Char) :
    NameSet :=
  (Classified.ofRules fun rule =>
    if config.isEnabled rule then
      NameSet.ofList ((rule.namesIn (withoutByteOrderMark text)).flatMap (withExpansion aliases))
    else .empty).references

section Through
variable {aliases : AliasTable} {config : ExtractionConfig} {text : List Char}

theorem extract_eq_extractThrough (config : ExtractionConfig) (text : List Char) :
    extract config text = extractThrough
      (if config.expandAliases then directives (withoutByteOrderMark text) else .empty) config
      text := by
  refine congrArg Classified.references (Classified.ext_slot fun rule => ?_)
  rw [slot_classify, Classified.slot_ofRules]

theorem mem_extractThrough {name : String} :
    name ∈ extractThrough aliases config text ↔ ∃ rule, config.isEnabled rule = true ∧
      ∃ found ∈ rule.namesIn (withoutByteOrderMark text), name ∈ withExpansion aliases found := by
  rw [extractThrough, Classified.mem_references]
  refine exists_congr fun rule => ?_
  rw [Classified.slot_ofRules]
  cases config.isEnabled rule with
  | true => simp [NameSet.mem_ofList, List.mem_flatMap]
  | false =>
    have hempty : name ∉ NameSet.empty := List.not_mem_nil
    simp [hempty]

theorem mem_extractThrough_iff {name : String} :
    name ∈ extractThrough aliases config text ↔ name ∈ extractThrough .empty config text ∨
      ∃ found ∈ extractThrough .empty config text,
        aliases.expand found = some name ∧ isFiltered name = false := by
  have hplain : ∀ {rule found}, config.isEnabled rule = true →
      found ∈ rule.namesIn (withoutByteOrderMark text) →
      found ∈ extractThrough .empty config text := fun hrule hfound =>
    mem_extractThrough.2 ⟨_, hrule, _, hfound, mem_withExpansion_iff.2 (.inl rfl)⟩
  have hfrom : ∀ {found}, found ∈ extractThrough .empty config text → ∃ rule,
      config.isEnabled rule = true ∧ found ∈ rule.namesIn (withoutByteOrderMark text) := by
    intro found hfound
    obtain ⟨rule, hrule, name, hname, hmem⟩ := mem_extractThrough.1 hfound
    obtain rfl : found = name := by simpa [mem_withExpansion_iff, AliasTable.expand,
      AliasTable.aliasTarget?, AliasTable.importOf?, AliasTable.empty] using hmem
    exact ⟨rule, hrule, hname⟩
  constructor
  · intro h
    obtain ⟨rule, hrule, found, hfound, hmem⟩ := mem_extractThrough.1 h
    rcases mem_withExpansion_iff.1 hmem with rfl | hlong
    · exact .inl (hplain hrule hfound)
    · exact .inr ⟨found, hplain hrule hfound, hlong⟩
  · intro h
    rcases h with h | ⟨found, hfound, hlong⟩
    · obtain ⟨rule, hrule, hname⟩ := hfrom h
      exact mem_extractThrough.2 ⟨rule, hrule, name, hname, mem_withExpansion_iff.2 (.inl rfl)⟩
    · obtain ⟨rule, hrule, hname⟩ := hfrom hfound
      exact mem_extractThrough.2 ⟨rule, hrule, found, hname, mem_withExpansion_iff.2 (.inr hlong)⟩

/-- Only the aliases of a table add last segments: what an import stands for ends in the name that is
there already. -/
theorem exists_shortName_extractThrough_iff {segment : String} :
    (∃ name ∈ extractThrough aliases config text, shortName name = segment) ↔
      (∃ name ∈ extractThrough .empty config text, shortName name = segment) ∨
      ∃ short target, aliases.aliasTarget? short = some target ∧
        short ∈ extractThrough .empty config text ∧ isFiltered target = false ∧
        shortName target = segment := by
  constructor
  · rintro ⟨name, hname, rfl⟩
    rcases mem_extractThrough_iff.1 hname with hplain | ⟨found, hfound, hexpand, hkept⟩
    · exact .inl ⟨name, hplain, rfl⟩
    · rcases expand_cases hexpand with halias | hsegment
      · exact .inr ⟨found, name, halias, hfound, hkept, rfl⟩
      · refine .inl ⟨found, hfound, ?_⟩
        rw [← hsegment, shortName_shortName]
  · rintro (⟨name, hname, rfl⟩ | ⟨short, target, halias, hshort, hkept, rfl⟩)
    · exact ⟨name, mem_extractThrough_iff.2 (.inl hname), rfl⟩
    · refine ⟨target, mem_extractThrough_iff.2 (.inr ⟨short, hshort, ?_, hkept⟩), rfl⟩
      exact expand_of_aliasTarget? halias

end Through

end RefAtlas.Reference
