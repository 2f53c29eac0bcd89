import RefAtlas.Proofs.Reference.ArrayRanks
import RefAtlas.Proofs.Reference.FoundNames
import RefAtlas.Proofs.Reference.SpelledNames

/-! # Names that array ranks hide

* `Misses`: a text without some names of a list, or with a parenthesis that stays open in it.
* `RankedType.misses_upToRank`, `RankedType.misses_of_stem_eq`: a rank in front of a name, or a
  closing angle bracket taken for another one, cuts off such a text.
* `typeNames_ranked`: ranks never add a name, and they hide one just if the type is not readable.
-/

namespace RefAtlas.Reference
open RefAtlas.Text
set_option autoImplicit false

/-! ## Ranks in front of names -/

mutual

theorem RankedType.rankedAtEnd_of_not_mem : ∀ t : RankedType, '[' ∉ t.chars → t.RankedAtEnd
  | .name _, _ => trivial
  | .generic base arguments, h => arguments.rankedAtEnd_of_not_mem fun hmem => h (by
      rw [RankedType.chars]
      simp [hmem])
  | .nullable type, h => type.rankedAtEnd_of_not_mem fun hmem => h (List.mem_append_left _ hmem)
  | .array type _, h => type.rankedAtEnd_of_not_mem fun hmem => h (List.mem_append_left _ hmem)
  | .tuple .., h => h

theorem RankedArguments.rankedAtEnd_of_not_mem : ∀ arguments : RankedArguments,
    '[' ∉ separated arguments.texts → arguments.RankedAtEnd
  | .last type, h => by
    rw [RankedArguments.texts, separated, List.intercalate_singleton] at h
    exact type.rankedAtEnd_of_not_mem h
  | .cons type more, h => by
    rw [RankedArguments.texts, separated_cons_of_ne_nil more.texts_ne_nil] at h
    simp only [List.mem_append, List.mem_cons, not_or] at h
    exact ⟨h.1, more.rankedAtEnd_of_not_mem h.2.2.2⟩

end

theorem narrows_upToRank (cs : List Char) : Narrows cs (upToRank cs) := by
  have hsplit := List.takeWhile_append_dropWhile (p := (· != '[')) (l := cs)
  have hcut : Narrows (upToRank cs ++ cs.dropWhile (· != '[')) (upToRank cs) := by
    refine Narrows.of_append fun d hd => ?_
    have hhead := List.head?_dropWhile_not (· != '[') cs
    rw [Option.mem_def.1 hd] at hhead
    have hd' : d = '[' := by simpa using hhead
    rw [hd']
    decide
  rwa [upToRank, hsplit] at hcut

theorem RankedType.spelled_ne_nil (t : RankedType) : t.spelled ≠ [] := by
  have hwords := headWords_ne_nil_of_startsItem t.startsItem_chars
  rw [t.headWords_eq] at hwords
  exact fun hnil => hwords (by rw [hnil]; rfl)

theorem RankedArguments.spelled_ne_nil (arguments : RankedArguments) : arguments.spelled ≠ [] := by
  cases arguments with
  | last type => exact type.spelled_ne_nil
  | cons type more => exact List.append_ne_nil_of_left_ne_nil type.spelled_ne_nil _

/-- Some of the names are not among the head words of a text, or a parenthesis stays open in it. -/
def Misses (cs : List Char) (names : List TypeName) : Prop :=
  (headWords true cs).length < names.length ∨ Excess cs

section Misses
variable {cs : List Char} {names : List TypeName}

theorem Misses.base (h : Misses cs names) (q : TypeName) :
    Misses (q.chars ++ ('<' :: cs)) (q :: names) := by
  refine h.imp (fun hlt => ?_) fun hexcess => ?_
  · rw [q.headWords_base]
    exact Nat.succ_lt_succ hlt
  · rw [List.append_cons]
    exact (q.opensFirst.append (.of_forall (by simp))).excess_append hexcess

theorem Misses.argument (h : Misses cs names) (t : RankedType) :
    Misses (t.chars ++ (',' :: ' ' :: cs)) (t.spelled ++ names) := by
  refine h.imp (fun hlt => ?_) fun hexcess => ?_
  · rw [t.headWords_chars _ (by simp; decide), headWords_separator, List.length_append,
      List.length_append, spellings, List.length_map]
    exact Nat.add_lt_add_left hlt _
  · rw [List.append_cons, List.append_cons]
    exact ((t.opensFirst.append (.of_forall (by simp))).append (.of_forall (by simp))).excess_append
      hexcess

/-- In a text taken from one argument the names of the next ones are missing. -/
theorem misses_of_narrows {t : RankedType} (h : Narrows t.chars cs) (hne : names ≠ []) :
    Misses cs (t.spelled ++ names) := by
  have hle := h.words.length_le
  have hpos := List.length_pos_iff.2 hne
  rw [t.headWords_eq, spellings, List.length_map] at hle
  refine .inl ?_
  rw [List.length_append]
  omega

end Misses

mutual

theorem RankedType.misses_upToRank : ∀ t : RankedType, ¬t.RankedAtEnd →
    Misses (upToRank t.chars) t.spelled
  | .name _, h => absurd trivial h
  | .generic base arguments, h => by
    have hrank := not_imp_comm.1 arguments.rankedAtEnd_of_not_mem h
    have hbase : '[' ∉ base.chars ++ ['<'] := by simp [base.typeText.unranked]
    rw [RankedType.chars, List.append_cons, upToRank_append, if_neg hbase, upToRank_append,
      if_pos hrank, ← List.append_cons]
    exact (arguments.misses_upToRank h).base base
  | .nullable type, h => by
    have hrank := not_imp_comm.1 type.rankedAtEnd_of_not_mem h
    rw [RankedType.chars, upToRank_append, if_pos hrank]
    exact type.misses_upToRank h
  | .array type commas, h => by
    have hrank := not_imp_comm.1 type.rankedAtEnd_of_not_mem h
    rw [RankedType.chars, upToRank_append, if_pos hrank]
    exact type.misses_upToRank h
  | .tuple type label more, h => by
    have helements := more.opensFirst_separated type label
    have hrank : '[' ∈ separated (elementChars type.chars label :: more.texts) := by
      simpa [RankedType.RankedAtEnd, RankedType.chars] using h
    have hcut : upToRank (RankedType.tuple type label more).chars =
        '(' :: upToRank (separated (elementChars type.chars label :: more.texts)) := by
      rw [RankedType.chars, ← List.singleton_append, upToRank_append, if_neg (by decide),
        upToRank_append, if_pos hrank, List.singleton_append]
    rw [hcut]
    exact .inr (helements.excess_cons (upToRank_isPrefix _))

theorem RankedArguments.misses_upToRank : ∀ arguments : RankedArguments, ¬arguments.RankedAtEnd →
    Misses (upToRank (separated arguments.texts)) arguments.spelled
  | .last type, h => by
    rw [RankedArguments.texts, separated, List.intercalate_singleton]
    exact type.misses_upToRank h
  | .cons type more, h => by
    rw [RankedArguments.texts, separated_cons_of_ne_nil more.texts_ne_nil, upToRank_append]
    split
    · exact misses_of_narrows (narrows_upToRank _) more.spelled_ne_nil
    · rename_i hrank
      have hmore : ¬more.RankedAtEnd := fun hmore => h ⟨hrank, hmore⟩
      have hseparator : upToRank (',' :: ' ' :: separated more.texts) =
          ',' :: ' ' :: upToRank (separated more.texts) := rfl
      rw [hseparator]
      exact (more.misses_upToRank hmore).argument type

end

/-! ## Closing angle brackets in front of names -/

theorem exists_of_append_eq_append_cons {c : Char} {cs ds front back : List Char} (h : c ∉ cs)
    (heq : cs ++ ds = front ++ c :: back) :
    ∃ inner, front = cs ++ inner ∧ ds = inner ++ c :: back := by
  rcases List.append_eq_append_iff.1 heq with ⟨inner, hfront, hds⟩ | ⟨inner, hcs, hback⟩
  · exact ⟨inner, hfront, hds⟩
  · cases inner with
    | nil => exact ⟨[], by simpa using hcs.symm, by simpa using hback.symm⟩
    | cons d inner =>
      obtain ⟨rfl, -⟩ := List.cons.inj hback
      exact absurd (hcs ▸ List.mem_append_right _ List.mem_cons_self) h

mutual

theorem RankedType.misses_of_stem_eq : ∀ (t : RankedType) {front back : List Char},
    t.stem = front ++ '>' :: back → Misses front t.spelled
  | .name q, front, back, heq => by
    rw [RankedType.stem] at heq
    have hmem : '>' ∈ q.chars := heq ▸ List.mem_append_right _ List.mem_cons_self
    exact absurd (q.isNamePart_of_mem hmem) (by decide)
  | .generic base arguments, front, back, heq => by
    have hbase : '>' ∉ base.chars ++ ['<'] := by
      simpa using fun hmem => absurd (base.isNamePart_of_mem hmem) (by decide)
    rw [RankedType.stem, List.append_cons] at heq
    obtain ⟨inner, rfl, hinner⟩ := exists_of_append_eq_append_cons hbase heq
    rw [← List.append_cons]
    exact (arguments.misses_of_stem_eq hinner).base base
  | .nullable type, front, back, heq => type.misses_of_stem_eq heq
  | .array type commas, front, back, heq => type.misses_of_stem_eq heq
  | .tuple type label more, front, back, heq => by
    have helements := more.opensFirst_separated type label
    rw [RankedType.stem, RankedType.chars, ← List.singleton_append] at heq
    obtain ⟨inner, rfl, hinner⟩ := exists_of_append_eq_append_cons (by decide) heq
    refine .inr (helements.excess_cons ?_)
    -- The last parenthesis stands behind the angle bracket.
    rcases List.prefix_concat_iff.1 ⟨_, hinner.symm⟩ with hall | hinside
    · rw [hall] at hinner
      simp at hinner
    · exact hinside

theorem RankedArguments.misses_of_stem_eq :
    ∀ (arguments : RankedArguments) {front back : List Char}, arguments.stem = front ++ '>' :: back → Misses front arguments.spelled
  | .last type, front, back, heq => type.misses_of_stem_eq heq
  | .cons type more, front, back, heq => by
    rw [RankedArguments.stem] at heq
    rcases List.append_eq_append_iff.1 heq with ⟨inner, rfl, hinner⟩ | ⟨inner, htype, hinner⟩
    · have hseparator : '>' ∉ [',', ' '] := by decide
      obtain ⟨rest, rfl, hrest⟩ := exists_of_append_eq_append_cons hseparator hinner
      exact (more.misses_of_stem_eq hrest).argument type
    · have hnarrows : Narrows type.chars front := by
        rw [htype]
        refine Narrows.of_append fun d hd => ?_
        cases inner with
        | nil => cases hd
        | cons c inner =>
          obtain ⟨rfl, -⟩ := List.cons.inj hinner
          obtain rfl : '>' = d := Option.some.inj hd
          decide
      exact misses_of_narrows hnarrows more.spelled_ne_nil

end

theorem plain_of_sublist {cs : List Char} {names : List TypeName} (hrank : '[' ∉ cs)
    (hwords : (headWords true cs).Sublist (spellings names)) : Plain cs where
  unranked := hrank
  unmodified w hw := by
    obtain ⟨q, -, rfl⟩ := List.mem_map.1 (hwords.subset hw)
    exact q.unmodified

theorem length_keptNames_le (names : List QualifiedName) :
    (keptNames names).length ≤ names.length := by
  have hfilter := List.length_filter_le (fun name => !isFiltered name)
    (names.map fun q => q.withoutRoot.text)
  rwa [List.length_map] at hfilter

theorem RankedType.length_names_erase (t : RankedType) :
    t.erase.names.length = t.spelled.length := by
  rw [t.names_erase_perm.length_eq, List.length_map]

theorem RankedArguments.narrows_stem (arguments : RankedArguments) (h : arguments.RankedAtEnd) :
    Narrows (separated arguments.texts) arguments.stem := by
  have hcut := narrows_upToRank (separated arguments.texts)
  rw [arguments.upToRank_separated h] at hcut
  refine hcut.trans (Narrows.of_append fun d hd => ?_)
  rcases arguments.areClosings d (List.mem_of_mem_head? hd) with rfl | rfl <;> decide

theorem RankedArguments.length_read_lt {arguments : RankedArguments} {cs : List Char}
    (h : Misses cs arguments.spelled) (hnarrows : Narrows (separated arguments.texts) cs)
    (hrank : '[' ∉ cs) :
    ((splitTopLevel cs).flatMap typeNames).length < arguments.spelled.length := by
  have hwords := hnarrows.words
  rw [arguments.headWords_eq] at hwords
  have hplain := plain_of_sublist hrank hwords
  have hfound := foundIn_splitTopLevel fun part hpart =>
    foundIn_typeNames part (hplain.part hpart)
  have hle := hwords.length_le
  rw [spellings, List.length_map] at hle
  rcases h with hlt | hexcess
  · exact Nat.lt_of_le_of_lt hfound.length_le hlt
  · exact Nat.lt_of_lt_of_le (hfound.lost hexcess) hle

mutual

theorem RankedType.length_typeNames_stem_lt : ∀ (t : RankedType) {w : List Char}, t.RankedAtEnd →
    AreClosings w → ¬t.AnglesFit (w.count '>') → (typeNames (t.stem ++ w)).length < t.spelled.length
  | .name _, _, _, _, hfit => absurd trivial hfit
  | .generic base arguments, w, h, hw, hfit => by
    have hbase := length_keptNames_le [base.toQualifiedName]
    obtain ⟨hzero, hread⟩ | ⟨u, hu, hsucc, hread⟩ := typeNames_generic_stem base h hw
    · -- With no bracket left, the last one in the arguments is taken, and what is behind it is lost.
      have harguments : ((splitTopLevel (upToClosingAngle arguments.stem)).flatMap
          typeNames).length < arguments.spelled.length := by
        have hrank := arguments.unranked_stem h
        by_cases hangle : '>' ∈ arguments.stem
        · obtain ⟨rest, hsplit⟩ := exists_eq_upToClosingAngle_append hangle
          have hcut := Narrows.of_upToClosingAngle arguments.stem
          exact RankedArguments.length_read_lt (arguments.misses_of_stem_eq hsplit)
            ((arguments.narrows_stem h).trans hcut) fun hmem => hrank (hcut.subset hmem)
        · have hrest := arguments.length_typeNames_stem_lt h (w := []) (List.forall_mem_nil _)
            fun hfit' => hfit ⟨fun _ => hangle, by simpa [hzero] using hfit'⟩
          rw [List.append_nil] at hrest
          rwa [upToClosingAngle_of_not_mem hangle]
      rw [hread, List.length_append, RankedType.spelled, List.length_cons]
      exact Nat.add_lt_add_of_lt_of_le harguments hbase
    · have harguments := arguments.length_typeNames_stem_lt h hu fun hfit' =>
        hfit ⟨fun hzero => absurd (hsucc.symm.trans hzero) (Nat.succ_ne_zero _), by
          rw [hsucc]
          exact hfit'⟩
      rw [hread, List.length_append, RankedType.spelled, List.length_cons]
      exact Nat.add_lt_add_of_lt_of_le harguments hbase
  | .nullable type, _, h, hw, hfit => type.length_typeNames_stem_lt h hw hfit
  | .array type _, _, h, hw, hfit => type.length_typeNames_stem_lt h hw hfit
  | .tuple .., _, _, _, hfit => absurd trivial hfit

theorem RankedArguments.length_typeNames_stem_lt : ∀ (arguments : RankedArguments) {w : List Char},
    arguments.RankedAtEnd → AreClosings w → ¬arguments.AnglesFit (w.count '>') →
      ((splitTopLevel (arguments.stem ++ w)).flatMap typeNames).length < arguments.spelled.length
  | .last type, w, h, hw, hfit => by
    rw [RankedArguments.stem, type.splitTopLevel_stem h hw, List.flatMap_singleton]
    exact type.length_typeNames_stem_lt h hw hfit
  | .cons type more, w, h, hw, hfit => by
    obtain ⟨htype, hmore⟩ := h
    have hitem := (type.typeText htype).itemText
    have hfirst := length_keptNames_le type.erase.names
    rw [type.length_names_erase] at hfirst
    rw [RankedArguments.stem, List.append_assoc, List.cons_append, List.cons_append,
      splitTopLevel_append_comma hitem.sealed hitem.trimmed, List.flatMap_cons,
      type.typeNames_unranked htype, List.length_append, RankedArguments.spelled,
      List.length_append]
    exact Nat.add_lt_add_of_le_of_lt hfirst (more.length_typeNames_stem_lt hmore hw hfit)

end

/-! ## Which ranks hide names -/

theorem flatMap_keptName_spellings (names : List TypeName) :
    (spellings names).flatMap keptName = keptNames (names.map TypeName.toQualifiedName) := by
  induction names with
  | nil => rfl
  | cons q names ih =>
    have hname : keptName q.chars = keptNames [q.toQualifiedName] :=
      keptName_chars q.toQualifiedName
    have hspellings : spellings (q :: names) = q.chars :: spellings names := rfl
    rw [hspellings, List.flatMap_cons, hname, ih, ← keptNames_append, List.map_cons,
      List.singleton_append]

theorem keptNames_perm {names more : List QualifiedName} (h : names.Perm more) :
    (keptNames names).Perm (keptNames more) := by
  rw [keptNames, keptNames]
  exact (h.map _).filter _

theorem length_keptNames {names : List QualifiedName}
    (h : ∀ q ∈ names, isFiltered q.withoutRoot.text = false) :
    (keptNames names).length = names.length := by
  have hall : ∀ name ∈ names.map (fun q => q.withoutRoot.text), (!isFiltered name) = true := by
    intro name hname
    obtain ⟨q, hq, rfl⟩ := List.mem_map.1 hname
    rw [h q hq]
    rfl
  rw [keptNames, List.filter_eq_self.2 hall, List.length_map]

namespace RankedType

theorem headWords_upToRank (t : RankedType) :
    (headWords true (upToRank t.chars)).Sublist (spellings t.spelled) :=
  t.headWords_eq ▸ (narrows_upToRank t.chars).words

theorem foundIn_upToRank (t : RankedType) : FoundIn (typeNames t.chars) (upToRank t.chars) := by
  rw [t.typeNames_upToRank]
  exact foundIn_typeNames _ (plain_of_sublist (not_mem_upToRank _) t.headWords_upToRank)

theorem typeNames_subperm (t : RankedType) :
    (typeNames t.chars).Subperm (typeNames t.erase.chars) := by
  have hall : ((spellings t.spelled).flatMap keptName).Perm (keptNames t.erase.names) := by
    rw [flatMap_keptName_spellings]
    exact keptNames_perm t.names_erase_perm.symm
  rw [typeNames_chars]
  exact (t.foundIn_upToRank.kept.trans (t.headWords_upToRank.flatMap keptName).subperm).trans
    hall.subperm

theorem readable_of_length_le (t : RankedType)
    (h : t.spelled.length ≤ (typeNames t.chars).length) : t.Readable := by
  have hfound := t.foundIn_upToRank
  have hle := t.headWords_upToRank.length_le
  rw [spellings, List.length_map] at hle
  have hranks : t.RankedAtEnd := by
    by_contra hranks
    rcases t.misses_upToRank hranks with hlt | hexcess
    · exact absurd (Nat.le_trans h hfound.length_le) (Nat.not_le_of_lt hlt)
    · exact absurd (Nat.le_trans hle h) (Nat.not_le_of_lt (hfound.lost hexcess))
  refine ⟨hranks, ?_⟩
  by_contra hfit
  have hlt := t.length_typeNames_stem_lt hranks t.areClosings hfit
  rw [← t.upToRank_chars hranks, ← t.typeNames_upToRank] at hlt
  exact absurd h (Nat.not_le_of_lt hlt)

end RankedType

/-- Array ranks never add a name. They hide none if the type is readable; if it is not, and all of
its names may be references, they hide one. -/
theorem typeNames_ranked (t : RankedType) :
    (typeNames t.chars).Subperm (typeNames t.erase.chars) ∧
      (t.Readable → typeNames t.chars = typeNames t.erase.chars) ∧
      ((∀ q ∈ t.erase.names, isFiltered q.withoutRoot.text = false) →
        typeNames t.chars = typeNames t.erase.chars → t.Readable) := by
  refine ⟨t.typeNames_subperm, t.typeNames_of_readable, fun hkept heq => ?_⟩
  refine t.readable_of_length_le ?_
  rw [heq, typeNames_chars, length_keptNames hkept, t.length_names_erase]

/-! ## Two types -/

def Identifier.ofAll (first : Char) (rest : List Char) (starts : isNameStart first = true)
    (continues : rest.all isWord = true) : Identifier :=
  ⟨first, rest, starts, List.all_eq_true.1 continues⟩

def itemName : TypeName := ⟨⟨.ofAll 'I' ['t', 'e', 'm'] rfl (by decide +kernel), []⟩, by decide⟩

def enemyName : TypeName :=
  ⟨⟨.ofAll 'E' ['n', 'e', 'm', 'y'] rfl (by decide +kernel), []⟩, by decide⟩

def poolName : TypeName := ⟨⟨.ofAll 'P' ['o', 'o', 'l'] rfl (by decide +kernel), []⟩, by decide⟩

def mapName : TypeName := ⟨⟨.ofAll 'M' ['a', 'p'] rfl (by decide +kernel), []⟩, by decide⟩

/-- The type `Map<Pool<Item>, Pool<Enemy>[,]>`. -/
def rankAtEnd : RankedType :=
  .generic mapName (.cons (.generic poolName (.last (.name itemName)))
    (.last (.array (.generic poolName (.last (.name enemyName))) 1)))

theorem typeNames_ranked_rankAtEnd :
    rankAtEnd.Readable ∧ typeNames rankAtEnd.chars = typeNames rankAtEnd.erase.chars := by
  have hranks : rankAtEnd.RankedAtEnd := ⟨by decide, trivial⟩
  have hangles : rankAtEnd.AnglesFit (rankAtEnd.closings.count '>') :=
    ⟨by decide, by decide, trivial⟩
  exact ⟨⟨hranks, hangles⟩, (typeNames_ranked rankAtEnd).2.1 ⟨hranks, hangles⟩⟩

/-- The type `Map<Item[], Enemy>`. -/
def rankInFront : RankedType :=
  .generic mapName (.cons (.array (.name itemName) 0) (.last (.name enemyName)))

theorem rankInFront_hides : typeNames rankInFront.chars = ["Item", "Map"] ∧
    typeNames rankInFront.erase.chars = ["Item", "Enemy", "Map"] := by
  constructor
  · -- Up to the rank, this is the text of `Map<Item[]>`.
    have hcut : upToRank rankInFront.chars =
        (RankedType.generic mapName (.last (.array (.name itemName) 0))).stem ++ [] := by decide
    have hread := (RankedType.generic mapName (.last (.array (.name itemName) 0))).typeNames_stem
      (w := []) trivial (List.forall_mem_nil _) (Nat.zero_le _) ⟨by decide, trivial⟩
    rw [rankInFront.typeNames_upToRank, hcut, hread]
    decide
  · rw [typeNames_chars]
    decide

end RefAtlas.Reference
