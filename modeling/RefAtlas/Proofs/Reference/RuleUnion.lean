import RefAtlas.Proofs.Reference.Expansion

/-! # No rule depends on another one

What an enabled rule finds in a text is the same whatever other rules are enabled, in whatever order
and how often. Directives add to it what the names in it stand for, and nothing else.

* `Rule.found`: what a rule finds by itself; `Rule.foundThrough`: the same with longer names.
* `slot_eq_foundThrough`: the slot of an enabled rule.
* `mem_extract_iff`: the references of a text, rule by rule; so they grow with the list of rules,
  and two lists of rules together find what one or the other does (`extract_union`).
-/

namespace RefAtlas.Reference
set_option autoImplicit false

/-- The names that a rule finds in a text, without what they stand for. -/
def Rule.found (rule : Rule) (text : List Char) : NameSet :=
  NameSet.ofList (rule.namesIn (withoutByteOrderMark text))

/-- The names that a rule finds in a text and, with `expanding`, the longer ones that they stand for
by the directives of the text. -/
def Rule.foundThrough (expanding : Bool) (rule : Rule) (text : List Char) : NameSet :=
  NameSet.ofList ((rule.namesIn (withoutByteOrderMark text)).flatMap
    (withExpansion (if expanding then directives (withoutByteOrderMark text) else .empty)))

section Rule
variable {rule : Rule} {text : List Char} {name : String}

theorem Rule.foundThrough_false : rule.foundThrough false text = rule.found text := by
  have hself : withExpansion .empty = fun name => [name] := rfl
  rw [foundThrough, if_neg Bool.false_ne_true, hself, List.flatMap_singleton', found]

theorem Rule.mem_foundThrough_true_iff : name ∈ rule.foundThrough true text ↔
    name ∈ rule.found text ∨ ∃ short ∈ rule.found text,
      (directives (withoutByteOrderMark text)).expand short = some name ∧
        isFiltered name = false := by
  simp only [foundThrough, if_true, found, NameSet.mem_ofList, List.mem_flatMap,
    mem_withExpansion_iff, and_or_left, exists_or, exists_eq_right']

end Rule

/-! ## Slots -/

section Slots
variable {config config' : ExtractionConfig} {rule : Rule} {text : List Char}

theorem ExtractionConfig.isEnabled_iff : config.isEnabled rule = true ↔ rule ∈ config.rules :=
  List.contains_iff_mem

theorem slot_eq_foundThrough (h : rule ∈ config.rules) :
    (classify config text).slot rule = rule.foundThrough config.expandAliases text := by
  rw [slot_classify, if_pos (ExtractionConfig.isEnabled_iff.2 h), Rule.foundThrough]

theorem slot_eq_empty (h : rule ∉ config.rules) : (classify config text).slot rule = .empty := by
  rw [slot_classify, if_neg fun henabled => h (ExtractionConfig.isEnabled_iff.1 henabled)]

theorem slot_congr (hrule : rule ∈ config.rules ↔ rule ∈ config'.rules)
    (haliases : config.expandAliases = config'.expandAliases) :
    (classify config text).slot rule = (classify config' text).slot rule := by
  by_cases h : rule ∈ config.rules
  · rw [slot_eq_foundThrough h, slot_eq_foundThrough (hrule.1 h), haliases]
  · rw [slot_eq_empty h, slot_eq_empty fun h' => h (hrule.2 h')]

/-! ## All references -/

theorem mem_extract_iff {name : String} : name ∈ extract config text ↔
    ∃ rule ∈ config.rules, name ∈ rule.foundThrough config.expandAliases text := by
  rw [extract, Classified.mem_references]
  refine exists_congr fun rule => ?_
  by_cases hrule : rule ∈ config.rules
  · rw [slot_eq_foundThrough hrule, and_iff_right hrule]
  · rw [slot_eq_empty hrule]
    exact iff_of_false List.not_mem_nil fun h => hrule h.1

theorem extract_mono (hrules : config.rules ⊆ config'.rules)
    (haliases : config.expandAliases = config'.expandAliases) {name : String}
    (h : name ∈ extract config text) : name ∈ extract config' text := by
  obtain ⟨rule, hrule, hname⟩ := mem_extract_iff.1 h
  exact mem_extract_iff.2 ⟨rule, hrules hrule, haliases ▸ hname⟩

theorem extract_union {both : ExtractionConfig}
    (hrules : ∀ rule, rule ∈ both.rules ↔ rule ∈ config.rules ∨ rule ∈ config'.rules)
    (haliases : config.expandAliases = both.expandAliases)
    (haliases' : config'.expandAliases = both.expandAliases) :
    extract both text = (extract config text).union (extract config' text) := by
  refine NameSet.ext_mem fun name => ?_
  simp only [NameSet.mem_union, mem_extract_iff, hrules, haliases, haliases', or_and_right,
    exists_or]

end Slots

/-- The slot of a rule that is not enabled is empty. That of an enabled one holds what the rule
finds in the text and, if names are expanded, what these names stand for by the directives of the
text, so it is the same for all settings that agree on the rule and on expansion. The references are
all that is in the slots; they grow with the rules, and those of two lists of rules are the
references of both together. -/
theorem classify_rule_by_rule (text : List Char) :
    (∀ config rule, rule ∉ config.rules → (classify config text).slot rule = .empty) ∧
    (∀ config rule, rule ∈ config.rules → config.expandAliases = false →
      (classify config text).slot rule = rule.found text) ∧
    (∀ config rule name, rule ∈ config.rules → config.expandAliases = true →
      (name ∈ (classify config text).slot rule ↔ name ∈ rule.found text ∨
        ∃ short ∈ rule.found text,
          (directives (withoutByteOrderMark text)).expand short = some name ∧
            isFiltered name = false)) ∧
    (∀ config config' rule, (rule ∈ config.rules ↔ rule ∈ config'.rules) →
      config.expandAliases = config'.expandAliases →
      (classify config text).slot rule = (classify config' text).slot rule) ∧
    (∀ config name, name ∈ extract config text ↔ ∃ rule, name ∈ (classify config text).slot rule) ∧
    (∀ config config', config.rules ⊆ config'.rules →
      config.expandAliases = config'.expandAliases →
      ∀ name ∈ extract config text, name ∈ extract config' text) ∧
    ∀ config config' both,
      (∀ rule, rule ∈ both.rules ↔ rule ∈ config.rules ∨ rule ∈ config'.rules) →
      config.expandAliases = both.expandAliases → config'.expandAliases = both.expandAliases →
      extract both text = (extract config text).union (extract config' text) := by
  refine ⟨fun config rule h => slot_eq_empty h, fun config rule h haliases => ?_,
    fun config rule name h haliases => ?_, fun config config' rule => slot_congr,
    fun config name => Classified.mem_references, fun config config' hrules haliases name =>
      extract_mono hrules haliases, fun config config' both => extract_union⟩
  · rw [slot_eq_foundThrough h, haliases, Rule.foundThrough_false]
  · rw [slot_eq_foundThrough h, haliases, Rule.mem_foundThrough_true_iff]

/-- An alias of a field's type, with the rule for fields given alone and given twice behind another.
-/
theorem classify_rule_by_rule_aliasedField :
    let text := "using L = Log;\npublic L a;".toList
    let withRules (rules : List Rule) := { ExtractionConfig.standard with rules := rules }
    let alone := withRules [.fields]
    let among := withRules [.methods, .fields, .fields]
    let methods := withRules [.methods]
    (classify among text).slot .attributes = .empty ∧
    (classify { alone with expandAliases := false } text).slot .fields = Rule.fields.found text ∧
    "Log" ∈ (classify alone text).slot .fields ∧ "Log" ∉ Rule.fields.found text ∧
    (classify alone text).slot .fields = (classify among text).slot .fields ∧
    "Log" ∈ extract among text ∧
    extract among text = (extract alone text).union (extract methods text) := by
  intro text withRules alone among methods
  obtain ⟨hdisabled, hplain, hexpanded, hsame, hall, hmono, hunion⟩ := classify_rule_by_rule text
  have hfound : (Rule.fields.found text).names = ["L"] := by decide +kernel
  have hexpand : (directives (withoutByteOrderMark text)).expand "L" = some "Log" := by
    decide
  have hlong : "Log" ∈ (classify alone text).slot .fields :=
    (hexpanded alone .fields "Log" (by decide) rfl).2
      (.inr ⟨"L", NameSet.mem_iff_mem_names.2 (by simp [hfound]), hexpand, by decide⟩)
  refine ⟨hdisabled among .attributes (by decide), hplain _ .fields (by decide) rfl, hlong, ?_,
    hsame alone among .fields (by decide) rfl,
    hmono alone among (by decide) rfl "Log" ((hall alone "Log").2 ⟨.fields, hlong⟩),
    hunion alone methods among (fun rule => ?_) rfl rfl⟩
  · rw [NameSet.mem_iff_mem_names, hfound]
    decide
  · cases rule <;> decide

end RefAtlas.Reference
