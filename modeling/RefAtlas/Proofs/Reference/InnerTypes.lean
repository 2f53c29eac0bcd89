import RefAtlas.Proofs.Reference.Filter
import RefAtlas.Proofs.Reference.HeadWords
import RefAtlas.Proofs.Reference.ListParts

/-! # The types inside a type

However malformed its text is, a type has a text of its own and the texts of the types inside it, the
arguments of a generic type or the elements of a tuple.

* `innerTypes`, `ownText`: the texts that the reading of a type goes on with, and the one that may be a
  name; `typeNames_eq_append` says that nothing else is read.
* `inOrder_ownText_innerTypes`: they stand in the text one behind the other.
* `innerTypes_induction`: the types inside are shorter, so there is an end of them.
* `apart_typeNames`: no part of the text is read twice.
* `isQualifiedName_iff`: what is read as a name is a name.
-/

namespace RefAtlas.Reference
open RefAtlas.Text
set_option autoImplicit false

/-- The texts of the types inside a type. -/
def innerTypes (cs : List Char) : List (List Char) :=
  match tupleBody? (bareType cs) with
  | some body => (splitTopLevel body).map leadingType
  | none =>
    match genericParts? (bareType cs) with
    | some parts => splitTopLevel parts.2
    | none => []

/-- The text of a type that is not inside another one. A tuple has none. -/
def ownText (cs : List Char) : List Char :=
  match tupleBody? (bareType cs) with
  | some _ => []
  | none =>
    match genericParts? (bareType cs) with
    | some parts => parts.1
    | none => bareType cs

theorem typeNames_eq_append (cs : List Char) :
    typeNames cs = (innerTypes cs).flatMap typeNames ++ keptName (ownText cs) := by
  rw [typeNames_eq, innerTypes, ownText]
  cases tupleBody? (bareType cs) with
  | some body =>
    dsimp only
    rw [List.flatMap_map]
    exact (List.append_nil _).symm
  | none =>
    cases genericParts? (bareType cs) with
    | some parts => rfl
    | none => exact (List.nil_append _).symm

/-! ## Pieces of the text -/

section Pieces
variable {cs body : List Char}

theorem bareType_isInfix (cs : List Char) : bareType cs <:+: cs := by
  have hsuffix : withoutArraySuffix (trim cs) <:+: trim cs := by
    rw [withoutArraySuffix]
    split
    · exact ((trimEnd_isPrefix _).trans ( List.takeWhile_prefix _)).isInfix
    · exact List.infix_rfl
  exact (trim_isInfix _).trans
    ((dropEndWhile_isPrefix _ _).isInfix.trans (hsuffix.trans (trim_isInfix cs)))

theorem eq_of_tupleBody? (h : tupleBody? cs = some body) : cs = '(' :: (body ++ [')']) := by
  unfold tupleBody? at h
  split at h
  · rename_i rest
    obtain ⟨hlast, hbody⟩ := Option.ite_none_right_eq_some.1 h
    cases hbody
    rw [List.dropLast_append_getLast? ')' (by simpa using hlast)]
  · cases h

theorem upToClosingAngle_isPrefix (cs : List Char) : upToClosingAngle cs <+: cs := by
  rw [upToClosingAngle]
  split
  · exact ( List.dropLast_prefix _).trans (dropEndWhile_isPrefix _ _)
  · exact List.prefix_rfl

theorem afterSections_isSuffix (inside : Bool) (cs : List Char) :
    afterSections inside cs <:+ cs := by
  fun_induction afterSections inside cs with
  | case1 => exact List.suffix_rfl
  | case2 c rest ih => exact ih.trans (List.suffix_cons c rest)
  | case3 c rest hopen ih => exact ih.trans (List.suffix_cons c rest)
  | case4 c rest hopen hblank ih => exact ih.trans (List.suffix_cons c rest)
  | case5 c rest hopen hblank => exact List.suffix_rfl

theorem afterModifiers_isSuffix (cs : List Char) : afterModifiers cs <:+ cs := by
  fun_induction afterModifiers cs with
  | case1 cs h ih =>
    exact ih.trans ((trimStart_isSuffix _).trans (List.dropWhile_suffix _))
  | case2 cs h => exact List.suffix_rfl

theorem typeSpan_isPrefix (depth : Int) (cs : List Char) : typeSpan depth cs <+: cs := by
  fun_induction typeSpan depth cs with
  | case1 => exact List.prefix_rfl
  | case2 depth c rest hends => exact List.nil_prefix
  | case3 depth c rest hgoes ih => exact (List.prefix_cons_inj c).2 ih

theorem leadingType_isInfix (cs : List Char) : leadingType cs <:+: cs := by
  have hspan := typeSpan_isPrefix 0 (afterModifiers (afterSections false (trim cs)))
  have hfront := (afterModifiers_isSuffix _).trans (afterSections_isSuffix false (trim cs))
  exact (trim_isInfix _).trans
    (hspan.isInfix.trans (hfront.isInfix.trans (trim_isInfix cs)))

/-- The text of a type itself comes first, and the types inside it behind. -/
theorem inOrder_ownText_innerTypes (cs : List Char) : InOrder (ownText cs :: innerTypes cs) cs := by
  refine InOrder.of_isInfix ?_ (bareType_isInfix cs)
  rw [ownText, innerTypes]
  split
  · rename_i body hbody
    rw [eq_of_tupleBody? hbody]
    have hparts := ((inOrder_splitTopLevel body).map leadingType_isInfix).append (.nil [')'])
    rw [List.append_nil] at hparts
    exact .cons [] [] (hparts.behind ['('])
  · split
    · rename_i parts hparts
      obtain ⟨base, rest, hsplit, rfl⟩ := exists_of_genericParts? hparts
      have hbase := (InOrder.singleton (trim base)).of_isInfix (trim_isInfix base)
      have harguments := (inOrder_splitTopLevel (upToClosingAngle rest)).of_isInfix
        (upToClosingAngle_isPrefix rest).isInfix
      rw [hsplit]
      exact hbase.append (harguments.behind ['<'])
    · exact .singleton _

theorem innerTypes_isInfix {inner : List Char} (h : inner ∈ innerTypes cs) : inner <:+: cs :=
  (inOrder_ownText_innerTypes cs).isInfix (List.mem_cons_of_mem _ h)

theorem length_lt_of_mem_innerTypes {inner : List Char} (h : inner ∈ innerTypes cs) :
    inner.length < cs.length := by
  have hbare := length_bareType_le cs
  rw [innerTypes] at h
  split at h
  · rename_i body hbody
    obtain ⟨part, hpart, rfl⟩ := List.mem_map.1 h
    have hleading := length_leadingType_le part
    have hlist := length_le_of_mem_splitTopLevel hpart
    have hbody := length_lt_of_tupleBody? hbody
    omega
  · split at h
    · rename_i parts hparts
      have hlist := length_le_of_mem_splitTopLevel h
      have harguments := length_lt_of_genericParts? hparts
      omega
    · cases h

end Pieces

theorem innerTypes_induction {motive : List Char → Prop}
    (h : ∀ cs, (∀ inner ∈ innerTypes cs, motive inner) → motive cs) (cs : List Char) :
    motive cs := by
  induction hn : cs.length using Nat.strong_induction_on generalizing cs with
  | _ n ih =>
    exact h cs fun inner hinner => ih _ (hn ▸ length_lt_of_mem_innerTypes hinner) inner rfl

/-! ## Names -/

theorem continuesName_sound {fresh : Bool} {cs : List Char} (h : continuesName fresh cs = true) :
    if fresh then ∃ q : QualifiedName, q.chars = cs
    else ∃ (word : List Char) (more : List (Joint × Identifier)), (∀ c ∈ word, isWord c = true) ∧
      (word ++ more.flatMap fun s => s.1.chars ++ s.2.chars) = cs := by
  fun_induction continuesName fresh cs with
  | case1 => cases h
  | case2 c rest ih =>
    obtain ⟨hstart, hrest⟩ := Bool.and_eq_true_iff.1 h
    obtain ⟨word, more, hword, rfl⟩ := ih hrest
    exact ⟨⟨⟨c, word, hstart, hword⟩, more⟩, rfl⟩
  | case3 => exact ⟨[], [], List.forall_mem_nil _, rfl⟩
  | case4 rest ih =>
    obtain ⟨q, rfl⟩ := ih h
    exact ⟨[], (.point, q.first) :: q.more, List.forall_mem_nil _, rfl⟩
  | case5 rest ih =>
    obtain ⟨q, rfl⟩ := ih h
    exact ⟨[], (.colons, q.first) :: q.more, List.forall_mem_nil _, rfl⟩
  | case6 c rest _ _ ih =>
    obtain ⟨hc, hrest⟩ := Bool.and_eq_true_iff.1 h
    obtain ⟨word, more, hword, rfl⟩ := ih hrest
    exact ⟨c :: word, more, List.forall_mem_cons.2 ⟨hc, hword⟩, rfl⟩

theorem isQualifiedName_iff {cs : List Char} :
    isQualifiedName cs = true ↔ ∃ q : QualifiedName, q.chars = cs := by
  refine ⟨fun h => continuesName_sound h, ?_⟩
  rintro ⟨q, rfl⟩
  exact q.isQualifiedName_chars

theorem exists_of_mem_keptName {cs : List Char} {name : String} (h : name ∈ keptName cs) :
    ∃ q : QualifiedName, q.text = name := by
  simp only [keptName] at h
  split at h
  · rename_i hkept
    obtain ⟨q, hq⟩ := isQualifiedName_iff.1 (Bool.and_eq_true_iff.1 hkept).1
    exact ⟨q, (congrArg String.ofList hq).trans (List.mem_singleton.1 h).symm⟩
  · cases h

theorem exists_of_mem_typeNames {cs : List Char} {name : String} (h : name ∈ typeNames cs) :
    ∃ q : QualifiedName, q.text = name := by
  induction cs using innerTypes_induction with
  | h cs ih =>
    rw [typeNames_eq_append, List.mem_append] at h
    rcases h with h | h
    · obtain ⟨inner, hinner, hname⟩ := List.mem_flatMap.1 h
      exact ih inner hinner hname
    · exact exists_of_mem_keptName h

theorem QualifiedName.text_ne_empty (q : QualifiedName) : q.text ≠ "" := by
  intro h
  have hchars : q.chars = [] := String.ofList_eq_empty_iff.1 h
  cases hchars

theorem apart_keptName (cs : List Char) : Apart ((keptName cs).map String.toList) cs := by
  simp only [keptName]
  split
  · rw [List.map_singleton, String.toList_ofList]
    exact .singleton (withoutGlobal_isSuffix cs).isInfix
  · exact .nil cs

/-- The names of a type are pieces of its text that do not overlap. -/
theorem apart_typeNames (cs : List Char) : Apart ((typeNames cs).map String.toList) cs := by
  induction cs using innerTypes_induction with
  | h cs ih =>
    obtain ⟨gap, rest, hcs, horder⟩ := (inOrder_ownText_innerTypes cs).exists_of_cons
    have hnames := (apart_keptName (ownText cs)).append (Apart.flatMap horder ih)
    rw [typeNames_eq_append, List.map_append, List.map_flatMap]
    exact (hnames.of_isInfix ⟨gap, [], (List.append_nil _).trans hcs.symm⟩).perm
      List.perm_append_comm

end RefAtlas.Reference
