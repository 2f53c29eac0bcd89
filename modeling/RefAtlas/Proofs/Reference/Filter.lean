import Mathlib.Data.List.TakeWhile
import RefAtlas.Proofs.Reference.Slots

/-! # Nothing filtered gets out

Names come into a set on two ways: a rule finds them in a piece of text, or they are what an alias or
an import stands for. Both ways lead past the filter, whatever the pieces are.

* `lastSegment_lastSegment`, `isFiltered_shortName`: the filter only looks at the last segment.
* `Kept`: lists of names that pass the filter; `kept_typeNames`, `kept_namesAt`, `kept_withExpansion`:
  the readings that give such lists.
* `not_isFiltered_of_mem_slot`, `not_isFiltered_of_mem_extract`: the references of a text.
-/

namespace RefAtlas.Reference
set_option autoImplicit false

/-! ## Last segments -/

def isUnqualified (cs : List Char) : Bool := cs.all fun c => !isSeparator c

theorem isUnqualified_iff {cs : List Char} :
    isUnqualified cs = true ↔ ∀ c ∈ cs, isSeparator c = false := by
  simp [isUnqualified]

theorem lastSegment_of_isUnqualified {cs : List Char} (h : isUnqualified cs = true) :
    lastSegment cs = cs := by
  rw [isUnqualified_iff] at h
  have hdrop : cs.reverse.dropWhile isSeparator = cs.reverse := by
    refine List.dropWhile_eq_self_iff.2 fun hlength => ?_
    rw [h _ (List.mem_reverse.1 (List.getElem_mem hlength))]
    exact Bool.false_ne_true
  have htake : (cs.reverse.takeWhile fun c => !isSeparator c) = cs.reverse := by
    refine List.takeWhile_eq_self_iff.2 fun c hc => ?_
    rw [h c (List.mem_reverse.1 hc)]
    rfl
  simp only [lastSegment, hdrop, htake, List.reverse_reverse, ite_self]

theorem lastSegment_lastSegment (cs : List Char) :
    lastSegment (lastSegment cs) = lastSegment cs := by
  generalize hsegment :
    ((cs.reverse.dropWhile isSeparator).takeWhile fun c => !isSeparator c).reverse = segment
  by_cases hempty : segment.isEmpty = true
  · have hself : lastSegment cs = cs := by
      simp only [lastSegment, hsegment]
      rw [if_pos hempty]
    rw [hself, hself]
  · have hlast : lastSegment cs = segment := by
      simp only [lastSegment, hsegment]
      rw [if_neg hempty]
    rw [hlast]
    refine lastSegment_of_isUnqualified (isUnqualified_iff.2 fun c hc => ?_)
    rw [← hsegment, List.mem_reverse] at hc
    simpa using List.mem_takeWhile_imp hc

theorem shortName_shortName (s : String) : shortName (shortName s) = shortName s := by
  rw [shortName, shortName, String.toList_ofList, lastSegment_lastSegment]

theorem shortName_of_isUnqualified {s : String} (h : isUnqualified s.toList = true) :
    shortName s = s := by
  rw [shortName, lastSegment_of_isUnqualified h, String.ofList_toList]

/-! ## The tables -/

theorem all_keywords_isUnqualified : (keywords.all fun k => isUnqualified k.toList) = true := by
  simp [keywords, isUnqualified, isSeparator]

theorem all_commonTypes_isUnqualified :
    (commonTypes.all fun k => isUnqualified k.toList) = true := by
  simp [commonTypes, isUnqualified, isSeparator]

theorem isSeparator_toLower {c : Char} (h : isSeparator c = true) :
    isSeparator c.toLower = true := by
  simp only [isSeparator, Bool.or_eq_true, beq_iff_eq] at h
  rcases h with rfl | rfl
  · rfl
  · rfl

theorem isUnqualified_of_lowerAscii {cs : List Char}
    (h : isUnqualified (Text.lowerAscii cs) = true) : isUnqualified cs = true := by
  rw [isUnqualified_iff] at h ⊢
  intro c hc
  rw [Bool.eq_false_iff]
  intro hsep
  have hlower := h _ (List.mem_map_of_mem hc)
  rw [isSeparator_toLower hsep] at hlower
  cases hlower

theorem shortName_of_isKeyword {s : String} (h : isKeyword s = true) : shortName s = s := by
  have hkeyword := List.all_eq_true.1 all_keywords_isUnqualified _ (List.contains_iff_mem.1 h)
  rw [String.toList_ofList] at hkeyword
  exact shortName_of_isUnqualified (isUnqualified_of_lowerAscii hkeyword)

theorem shortName_of_mem_commonTypes {s : String} (h : s ∈ commonTypes) : shortName s = s :=
  shortName_of_isUnqualified (List.all_eq_true.1 all_commonTypes_isUnqualified _ h)

/-! ## The filter -/

theorem isFiltered_iff {s : String} : isFiltered s = true ↔
    isKeyword (shortName s) = true ∨ shortName s ∈ commonTypes := by
  simp only [isFiltered, isCommonType, Bool.or_eq_true, List.contains_iff_mem]
  constructor
  · rintro ((h | h) | h | h)
    · rw [shortName_of_isKeyword h]
      exact .inl h
    · exact .inl h
    · rw [shortName_of_mem_commonTypes h]
      exact .inr h
    · exact .inr h
  · rintro (h | h)
    · exact .inl (.inr h)
    · exact .inr (.inr h)

theorem isFiltered_shortName (s : String) : isFiltered (shortName s) = isFiltered s := by
  rw [Bool.eq_iff_iff, isFiltered_iff, isFiltered_iff, shortName_shortName]

/-! ## Names that are kept -/

def Kept (names : List String) : Prop := ∀ name ∈ names, isFiltered name = false

theorem kept_nil : Kept [] := fun _ h => absurd h List.not_mem_nil

theorem kept_singleton {name : String} (h : isFiltered name = false) : Kept [name] := by
  intro other hother
  rw [List.mem_singleton.1 hother]
  exact h

theorem Kept.append {names more : List String} (h : Kept names) (h' : Kept more) :
    Kept (names ++ more) := by
  intro name hname
  rcases List.mem_append.1 hname with hname | hname
  · exact h name hname
  · exact h' name hname

theorem Kept.flatMap {γ : Type} {f : γ → List String} {l : List γ} (h : ∀ a ∈ l, Kept (f a)) :
    Kept (l.flatMap f) := by
  intro name hname
  obtain ⟨a, ha, hname⟩ := List.mem_flatMap.1 hname
  exact h a ha name hname

theorem kept_keptName (cs : List Char) : Kept (keptName cs) := by
  simp only [keptName]
  split
  · next h => exact kept_singleton (by simpa using (Bool.and_eq_true_iff.1 h).2)
  · exact kept_nil

theorem kept_typeNames (cs : List Char) : Kept (typeNames cs) := by
  fun_induction typeNames cs with
  | case1 cs body ht ih => exact Kept.flatMap fun part _ => ih part
  | case2 cs ht parts hg ih => exact (Kept.flatMap fun part _ => ih part).append (kept_keptName _)
  | case3 cs ht hg => exact kept_keptName _

theorem kept_attributeUsageNames (cs : List Char) : Kept (attributeUsageNames cs) := by
  simp only [attributeUsageNames]
  split
  · exact kept_nil
  · exact kept_typeNames _

theorem kept_piece {names : List Char → List String} (h : ∀ cs, Kept (names cs))
    (piece : Option (List Char)) : Kept (piece.elim [] names) := by
  cases piece with
  | none => exact kept_nil
  | some cs => exact h cs

theorem kept_namesAt (rule : Rule) (place : Cursor) : Kept (rule.namesAt place) := by
  cases rule with
  | fields => exact kept_piece kept_typeNames _
  | methods =>
    refine (kept_piece kept_typeNames _).append (kept_piece (fun cs => ?_) _)
    exact Kept.flatMap fun parameter _ => kept_typeNames _
  | inheritance => exact kept_piece (fun cs => Kept.flatMap fun base _ => kept_typeNames base) _
  | instantiations => exact kept_piece kept_typeNames _
  | attributes =>
    exact kept_piece (fun cs => Kept.flatMap fun usage _ => kept_attributeUsageNames usage) _

theorem kept_withExpansion (aliases : AliasTable) {name : String} (h : isFiltered name = false) :
    Kept (withExpansion aliases name) := by
  unfold withExpansion
  split
  · next long _ =>
    split
    · exact kept_singleton h
    · next hlong => exact (kept_singleton (Bool.eq_false_iff.2 hlong)).append (kept_singleton h)
  · exact kept_singleton h

/-! ## The references of a text -/

theorem not_isFiltered_of_mem_slot {config : ExtractionConfig} {text : List Char} {rule : Rule}
    {name : String} (h : name ∈ (classify config text).slot rule) : isFiltered name = false := by
  rw [slot_classify] at h
  split at h
  · rw [NameSet.mem_ofList] at h
    have hnames : Kept (rule.namesIn (withoutByteOrderMark text)) :=
      Kept.flatMap fun place _ => kept_namesAt rule place
    exact Kept.flatMap (fun name hname => kept_withExpansion _ (hnames name hname)) name h
  · exact absurd h List.not_mem_nil

theorem Classified.mem_references {c : Classified} {name : String} :
    name ∈ c.references ↔ ∃ rule, name ∈ c.slot rule := by
  have hempty : name ∉ NameSet.empty := List.not_mem_nil
  simp only [references, Rule.all, List.foldl_cons, List.foldl_nil, NameSet.mem_union, hempty,
    false_or]
  constructor
  · rintro ((((h | h) | h) | h) | h)
    all_goals exact ⟨_, h⟩
  · rintro ⟨rule, h⟩
    cases rule with
    | fields => exact .inl (.inl (.inl (.inl h)))
    | methods => exact .inl (.inl (.inl (.inr h)))
    | inheritance => exact .inl (.inl (.inr h))
    | instantiations => exact .inl (.inr h)
    | attributes => exact .inr h

theorem not_isFiltered_of_mem_extract {config : ExtractionConfig} {text : List Char}
    {name : String} (h : name ∈ extract config text) : isFiltered name = false := by
  obtain ⟨rule, hrule⟩ := Classified.mem_references.1 h
  exact not_isFiltered_of_mem_slot hrule

end RefAtlas.Reference
