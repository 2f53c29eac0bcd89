import RefAtlas.Proofs.Dictionary
import RefAtlas.Reference.Extract

/-! # One slot for each rule

The rules of a text are applied one after the other, and all of them write into the same result.
Each turn changes the slot of its own rule and leaves the others alone, so what a slot holds in the
end is what its rule finds.

* `Classified.slot_record_self`, `Classified.slot_record_of_ne`: what is recorded for one rule.
* `mem_slot_applyRule`: one turn; `mem_slot_foldl_applyRule`: any turns, from whatever there is
  before them.
* `slot_classify`: the slots in the end.
-/

namespace RefAtlas.Reference
set_option autoImplicit false

theorem NameSet.ext_mem {s t : NameSet} (h : ∀ name, name ∈ s ↔ name ∈ t) : s = t := by
  obtain ⟨names, hnames⟩ := s
  obtain ⟨others, hothers⟩ := t
  obtain rfl : names = others :=
    eq_of_mem_iff_of_pairwise (fun _ _ => lt_asymm) hnames hothers h
  rfl

namespace Classified

theorem ext_slot {c c' : Classified} (h : ∀ rule, c.slot rule = c'.slot rule) : c = c' := by
  obtain ⟨fields, methods, inheritance, instantiations, attributes⟩ := c
  obtain rfl : fields = c'.fields := h .fields
  obtain rfl : methods = c'.methods := h .methods
  obtain rfl : inheritance = c'.inheritance := h .inheritance
  obtain rfl : instantiations = c'.instantiations := h .instantiations
  obtain rfl : attributes = c'.attributes := h .attributes
  rfl

theorem slot_record_self (c : Classified) (rule : Rule) (names : List String) :
    (c.record rule names).slot rule = (c.slot rule).insertAll names := by
  cases rule <;> rfl

theorem slot_record_of_ne {rule other : Rule} (h : other ≠ rule) (c : Classified)
    (names : List String) : (c.record rule names).slot other = c.slot other := by
  cases rule <;> cases other <;> first | rfl | exact absurd rfl h

end Classified

section Turns
variable {config : ExtractionConfig} {aliases : AliasTable} {cs : List Char} {rule : Rule}
  {name : String}

/-- One turn adds to the slot of its rule what the rule finds, with what that stands for. -/
theorem mem_slot_applyRule {found : Classified} {turn : Rule} :
    name ∈ (applyRule config aliases cs found turn).slot rule ↔ name ∈ found.slot rule ∨
      rule = turn ∧ config.isEnabled rule = true ∧
        name ∈ (rule.namesIn cs).flatMap (withExpansion aliases) := by
  unfold applyRule
  by_cases hturn : rule = turn
  · subst hturn
    cases config.isEnabled rule with
    | true =>
      rw [if_pos rfl, Classified.slot_record_self, NameSet.mem_insertAll]
      simp
    | false => simp
  · cases config.isEnabled turn with
    | true =>
      rw [if_pos rfl, Classified.slot_record_of_ne hturn]
      simp [hturn]
    | false => simp [hturn]

theorem mem_slot_foldl_applyRule (turns : List Rule) (found : Classified) :
    name ∈ (turns.foldl (applyRule config aliases cs) found).slot rule ↔ name ∈ found.slot rule ∨
      rule ∈ turns ∧ config.isEnabled rule = true ∧
        name ∈ (rule.namesIn cs).flatMap (withExpansion aliases) := by
  induction turns generalizing found with
  | nil => simp
  | cons turn turns ih =>
    rw [List.foldl_cons, ih, mem_slot_applyRule, or_assoc, ← or_and_right, List.mem_cons]

end Turns

theorem Rule.mem_all (rule : Rule) : rule ∈ all := by cases rule <;> decide

theorem slot_classify (config : ExtractionConfig) (text : List Char) (rule : Rule) :
    (classify config text).slot rule =
      if config.isEnabled rule then
        NameSet.ofList ((rule.namesIn (withoutByteOrderMark text)).flatMap (withExpansion
          (if config.expandAliases then directives (withoutByteOrderMark text) else .empty)))
      else .empty := by
  have hempty : ∀ name, name ∉ NameSet.empty := fun _ => List.not_mem_nil
  refine NameSet.ext_mem fun name => ?_
  rw [classify, mem_slot_foldl_applyRule, Classified.empty, Classified.slot_ofRules]
  by_cases henabled : config.isEnabled rule = true
  · simp [hempty, henabled, rule.mem_all, NameSet.mem_ofList]
  · simp [hempty, henabled]

end RefAtlas.Reference
