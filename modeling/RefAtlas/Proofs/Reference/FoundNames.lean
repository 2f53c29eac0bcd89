import Mathlib.Data.List.Flatten
import Mathlib.Data.List.Perm.Subperm
import RefAtlas.Proofs.Reference.HeadWords

/-! # What is read from a plain text

* `FoundIn`: names that are read from head words of a text, each at most once, and not from all of
  them if a parenthesis stays open in the text.
* `intercalate_topLevelPieces`: the pieces of a list make up the list.
* `foundIn_typeNames`: so are the names of every plain text found.
-/

namespace RefAtlas.Reference
open RefAtlas.Text
set_option autoImplicit false

/-! ## Names -/

theorem isNamePart_of_continuesName {fresh : Bool} {cs : List Char}
    (h : continuesName fresh cs = true) : ∀ c ∈ cs, isNamePart c = true := by
  fun_induction continuesName fresh cs with
  | case1 => cases h
  | case2 c rest ih =>
    obtain ⟨hstart, hrest⟩ := Bool.and_eq_true_iff.1 h
    exact List.forall_mem_cons.2 ⟨isNamePart_of_isWord (isWord_of_isNameStart hstart), ih hrest⟩
  | case3 => exact List.forall_mem_nil _
  | case4 rest ih => exact List.forall_mem_cons.2 ⟨by decide, ih h⟩
  | case5 rest ih =>
    exact List.forall_mem_cons.2 ⟨by decide, List.forall_mem_cons.2 ⟨by decide, ih h⟩⟩
  | case6 c rest _ _ ih =>
    obtain ⟨hword, hrest⟩ := Bool.and_eq_true_iff.1 h
    exact List.forall_mem_cons.2 ⟨isNamePart_of_isWord hword, ih hrest⟩

theorem forall_isNamePart_of_keptName_ne_nil {cs : List Char} (h : keptName cs ≠ []) :
    cs ≠ [] ∧ ∀ c ∈ cs, isNamePart c = true := by
  have hname : isQualifiedName (withoutGlobal cs) = true := by
    by_contra hno
    rw [keptName] at h
    simp [hno] at h
  have hparts := isNamePart_of_continuesName hname
  constructor
  · rintro rfl
    cases hname
  · unfold withoutGlobal at hparts
    split at hparts
    · rename_i rest
      have hroot : ∀ c ∈ QualifiedName.rootChars ++ [':', ':'], isNamePart c = true :=
        List.all_eq_true.1 (by decide)
      exact List.forall_mem_append.2 ⟨hroot, hparts⟩
    · exact hparts

theorem length_keptName_le (cs : List Char) : (keptName cs).length ≤ 1 := by
  rw [keptName]
  split <;> simp

theorem length_flatMap_keptName_le (words : List (List Char)) :
    (words.flatMap keptName).length ≤ words.length := by
  induction words with
  | nil => exact Nat.le_refl 0
  | cons word words ih =>
    have hword := length_keptName_le word
    rw [List.flatMap_cons, List.length_append, List.length_cons]
    omega

/-! ## What is found -/

/-- The names are those of some head words of the text, each read at most once, and not of all of
them if a parenthesis stays open. -/
structure FoundIn (names : List String) (cs : List Char) : Prop where
  kept : names.Subperm ((headWords true cs).flatMap keptName)
  lost : Excess cs → names.length < (headWords true cs).length

namespace FoundIn
variable {names names' : List String} {cs ds : List Char}

theorem length_le (h : FoundIn names cs) : names.length ≤ (headWords true cs).length :=
  Nat.le_trans h.kept.length_le (length_flatMap_keptName_le _)

theorem nil (cs : List Char) : FoundIn [] cs where
  kept := List.nil_subperm
  lost hexcess := List.length_pos_iff.2 (headWords_ne_nil_of_mem hexcess.mem true)

theorem perm (h : FoundIn names cs) (hperm : names'.Perm names) : FoundIn names' cs where
  kept := hperm.subperm.trans h.kept
  lost hexcess := hperm.length_eq ▸ h.lost hexcess

theorem of_narrows (h : FoundIn names ds) (hnarrows : Narrows cs ds) : FoundIn names cs where
  kept := h.kept.trans (hnarrows.words.flatMap keptName).subperm
  lost hexcess := by
    rcases hnarrows.excess hexcess with hds | hlost
    · exact Nat.lt_of_lt_of_le (h.lost hds) hnarrows.words.length_le
    · exact Nat.lt_of_le_of_lt h.length_le hlost

theorem append (h : FoundIn names cs) (h' : FoundIn names' ds) {d : Char} (hd : d = ',' ∨ d = '<') :
    FoundIn (names ++ names') (cs ++ d :: ds) where
  kept := by
    rw [headWords_append_fresh hd, List.flatMap_append]
    exact h.kept.append h'.kept
  lost hexcess := by
    have hle := h.length_le
    have hle' := h'.length_le
    have hparen : d ≠ '(' ∧ d ≠ ')' := by rcases hd with rfl | rfl <;> decide
    rw [headWords_append_fresh hd, List.length_append, List.length_append]
    rcases hexcess.of_append with hfirst | hrest
    · have hlt := h.lost hfirst
      omega
    · have hlt := h'.lost ((excess_cons_iff hparen.1 hparen.2).1 hrest)
      omega

end FoundIn

theorem foundIn_keptName (cs : List Char) : FoundIn (keptName cs) cs := by
  by_cases hname : keptName cs = []
  · rw [hname]
    exact .nil cs
  · obtain ⟨hne, hparts⟩ := forall_isNamePart_of_keptName_ne_nil hname
    have hword : headWords true (cs ++ []) = cs :: headWords false [] :=
      headWords_word hne hparts (by simp)
    rw [List.append_nil, headWords] at hword
    refine ⟨?_, fun hexcess => absurd (hparts _ hexcess.mem) (by decide)⟩
    rw [hword, List.flatMap_singleton]

/-! ## Lists of parts -/

theorem intercalate_modifyHead_cons {sep : List Char} {c : Char} {pieces : List (List Char)}
    (h : pieces ≠ []) :
    sep.intercalate (pieces.modifyHead (c :: ·)) = c :: sep.intercalate pieces := by
  obtain ⟨piece, more, rfl⟩ := List.exists_cons_of_ne_nil h
  cases more with
  | nil => simp
  | cons next more => simp [List.intercalate_cons_cons]

theorem intercalate_topLevelPieces (depth : Int) (cs : List Char) :
    [','].intercalate (topLevelPieces depth cs) = cs := by
  induction cs generalizing depth with
  | nil => rfl
  | cons c cs ih =>
    by_cases hsplit : c = ',' ∧ depth = 0
    · obtain ⟨rfl, rfl⟩ := hsplit
      obtain ⟨piece, more, hpieces⟩ := List.exists_cons_of_ne_nil (topLevelPieces_ne_nil 0 cs)
      have hrest := ih 0
      rw [hpieces] at hrest
      rw [topLevelPieces, if_pos (by decide), hpieces, List.intercalate_cons_cons, hrest]
      rfl
    · have hcomma : depth = 0 → (c == ',') = false := fun h0 =>
        beq_false_of_ne fun heq => hsplit ⟨heq, h0⟩
      rw [topLevelPieces_cons hcomma, intercalate_modifyHead_cons (topLevelPieces_ne_nil _ _), ih]

/-- What is found in the parts of a text between commas is found in the text. -/
theorem foundIn_parts {names : List Char → List String} {pieces : List (List Char)}
    (h : ∀ piece ∈ pieces, trim piece ≠ [] → FoundIn (names (trim piece)) (trim piece)) :
    FoundIn (((pieces.map trim).filter fun part => !part.isEmpty).flatMap names)
      ([','].intercalate pieces) := by
  have hpiece : ∀ piece ∈ pieces,
      FoundIn ((([piece].map trim).filter fun part => !part.isEmpty).flatMap names) piece := by
    intro piece hmem
    by_cases hempty : trim piece = []
    · simpa [hempty] using FoundIn.nil piece
    · simpa [hempty] using (h piece hmem hempty).of_narrows (Narrows.of_trim piece)
  clear h
  induction pieces with
  | nil => exact .nil []
  | cons piece pieces ih =>
    obtain ⟨hfirst, hpieces⟩ := List.forall_mem_cons.1 hpiece
    cases pieces with
    | nil => rwa [List.intercalate_singleton]
    | cons next more =>
      rw [← List.singleton_append, List.map_append, List.filter_append, List.flatMap_append,
        List.singleton_append, List.intercalate_cons_cons, List.append_assoc, List.singleton_append]
      exact hfirst.append (ih hpieces) (.inl rfl)

theorem foundIn_splitTopLevel {names : List Char → List String} {cs : List Char}
    (h : ∀ part ∈ splitTopLevel cs, FoundIn (names part) part) :
    FoundIn ((splitTopLevel cs).flatMap names) cs := by
  have hparts := foundIn_parts fun piece (hpiece : piece ∈ topLevelPieces 0 cs) hne =>
    h (trim piece) (List.mem_filter.2 ⟨List.mem_map_of_mem hpiece, by simpa using hne⟩)
  rwa [intercalate_topLevelPieces] at hparts

theorem Plain.of_mem_intercalate {piece : List Char} {pieces : List (List Char)}
    (h : Plain ([','].intercalate pieces)) (hpiece : piece ∈ pieces) : Plain piece := by
  induction pieces with
  | nil => cases hpiece
  | cons first pieces ih =>
    cases pieces with
    | nil =>
      rw [List.intercalate_singleton] at h
      rwa [List.mem_singleton.1 hpiece]
    | cons next more =>
      rw [List.intercalate_cons_cons, List.append_assoc, List.singleton_append] at h
      rcases List.mem_cons.1 hpiece with rfl | hpiece
      · exact h.narrows (Narrows.of_append (by simp; decide))
      · exact ih (h.behind (.inl rfl)) hpiece

theorem Plain.part {cs part : List Char} (h : Plain cs) (hpart : part ∈ splitTopLevel cs) :
    Plain part := by
  obtain ⟨hpart, -⟩ := List.mem_filter.1 hpart
  obtain ⟨piece, hpiece, rfl⟩ := List.mem_map.1 hpart
  rw [← intercalate_topLevelPieces 0 cs] at h
  exact (h.of_mem_intercalate hpiece).narrows (Narrows.of_trim piece)

/-! ## Plain texts -/

theorem foundIn_typeNames (cs : List Char) (h : Plain cs) : FoundIn (typeNames cs) cs := by
  have hbare := Narrows.of_bareType h.unranked
  have hplain := h.narrows hbare
  refine FoundIn.of_narrows ?_ hbare
  rw [typeNames_eq]
  split
  · rename_i body hbody
    have hinside := Narrows.of_tupleBody? hbody
    have hshorter := length_lt_of_tupleBody? hbody
    refine FoundIn.of_narrows (foundIn_splitTopLevel fun part hpart => ?_) hinside
    have hpart' := (hplain.narrows hinside).part hpart
    have hleading := Narrows.of_leadingType hpart'
    exact (foundIn_typeNames (leadingType part) (hpart'.narrows hleading)).of_narrows hleading
  · split
    · rename_i parts hparts
      obtain ⟨base, rest, hsplit, rfl⟩ := exists_of_genericParts? hparts
      have hshorter : (upToClosingAngle rest).length < (bareType cs).length :=
        length_lt_of_genericParts? hparts
      have hangle := Narrows.of_upToClosingAngle rest
      rw [hsplit] at hplain
      have hrest := (hplain.behind (.inr rfl)).narrows hangle
      have harguments := foundIn_splitTopLevel fun part hpart =>
        foundIn_typeNames part (hrest.part hpart)
      have hbase := (foundIn_keptName (trim base)).of_narrows (Narrows.of_trim base)
      rw [hsplit]
      exact (hbase.append (harguments.of_narrows hangle) (.inr rfl)).perm List.perm_append_comm
    · exact foundIn_keptName _
termination_by cs.length
decreasing_by
  · have := length_le_of_mem_splitTopLevel hpart
    have := length_leadingType_le part
    have := length_bareType_le cs
    omega
  · have := length_le_of_mem_splitTopLevel hpart
    have := length_bareType_le cs
    omega

end RefAtlas.Reference
