import Mathlib.Data.List.Induction
import RefAtlas.Proofs.Reference.RankedType
import RefAtlas.Proofs.Reference.TypeNames

/-! # Types with array ranks that are read as a whole

A type is read up to its first rank. Up to there, the reading of a generic type takes the last
closing angle bracket for the one of that type.

* `RankedType.Readable`: all names stand in front of the first rank, and the angle brackets in front
  of it fit.
* `RankedType.typeNames_of_readable`: such a type is read as all of its names.
-/

namespace RefAtlas.Reference
open RefAtlas.Text
set_option autoImplicit false

mutual

/-- How many generic types are open at the last name in front of the first rank. -/
def RankedType.openAngles : RankedType → Nat
  | .name _ => 0
  | .generic _ arguments => arguments.openAngles + 1
  | .nullable type => type.openAngles
  | .array type _ => type.openAngles
  | .tuple .. => 0

def RankedArguments.openAngles : RankedArguments → Nat
  | .last type => type.openAngles
  | .cons _ more => more.openAngles

end

mutual

/-- With `closed` closing angle brackets behind the stem, the last of them is taken for the one of
the outermost generic type, and so on inwards. A type for which none is left has no closing angle
bracket in its arguments either: `Map<Pool<Item>, Enemy[]>` would be read as `Map<Pool<Item>`. -/
def RankedType.AnglesFit : Nat → RankedType → Prop
  | _, .name _ => True
  | closed, .generic _ arguments =>
    (closed = 0 → '>' ∉ arguments.stem) ∧ arguments.AnglesFit (closed - 1)
  | closed, .nullable type => type.AnglesFit closed
  | closed, .array type _ => type.AnglesFit closed
  | _, .tuple .. => True

def RankedArguments.AnglesFit : Nat → RankedArguments → Prop
  | closed, .last type => type.AnglesFit closed
  | closed, .cons _ more => more.AnglesFit closed

end

/-- What stands in front of the first rank can be read as the whole type. -/
def RankedType.Readable (t : RankedType) : Prop :=
  t.RankedAtEnd ∧ t.AnglesFit (t.closings.count '>')

/-! ## What stands behind the stem -/

def AreClosings (w : List Char) : Prop := ∀ c ∈ w, c = '>' ∨ c = '?'

section AreClosings
variable {w : List Char}

theorem AreClosings.append_singleton {c : Char} (h : AreClosings w) (hc : c = '>' ∨ c = '?') :
    AreClosings (w ++ [c]) :=
  List.forall_mem_append.2 ⟨h, List.forall_mem_singleton.2 hc⟩

theorem AreClosings.not_mem {c : Char} (h : AreClosings w) (hangle : c ≠ '>') (hmark : c ≠ '?') :
    c ∉ w :=
  fun hmem => (h c hmem).elim hangle hmark

theorem AreClosings.trimmed (h : AreClosings w) {cs : List Char} (hcs : Trimmed cs) :
    Trimmed (cs ++ w) := by
  induction w using List.reverseRecOn with
  | nil => rwa [List.append_nil]
  | append_singleton w c _ =>
    have hblank : isBlank c = false := by
      rcases h c List.mem_concat_self with rfl | rfl <;> rfl
    exact hcs.append w (Trimmed.singleton hblank)

/-- Question marks at the end are not read; in front of them stands a closing angle bracket, or there
is none at all. -/
theorem AreClosings.typeNames_append (h : AreClosings w) {cs : List Char} (hcs : Trimmed cs)
    (hrank : '[' ∉ cs) :
    (w.count '>' = 0 ∧ typeNames (cs ++ w) = typeNames cs) ∨
      ∃ u, AreClosings u ∧ w.count '>' = u.count '>' + 1 ∧
        typeNames (cs ++ w) = typeNames (cs ++ (u ++ ['>'])) := by
  induction w using List.reverseRecOn with
  | nil => exact .inl ⟨rfl, by rw [List.append_nil]⟩
  | append_singleton u c ih =>
    have hu : AreClosings u := fun d hd => h d (List.mem_append_left _ hd)
    rcases h c List.mem_concat_self with rfl | rfl
    · exact .inr ⟨u, hu, List.count_append, rfl⟩
    · have hfree : '[' ∉ cs ++ u := fun hmem =>
        (List.mem_append.1 hmem).elim hrank (hu.not_mem (by decide) (by decide))
      have hread : typeNames (cs ++ (u ++ ['?'])) = typeNames (cs ++ u) := by
        rw [← List.append_assoc]
        exact typeNames_congr (bareType_nullable (hu.trimmed hcs) hfree)
      have hcount : (u ++ ['?']).count '>' = u.count '>' := by rw [List.count_append]; rfl
      rw [hcount, hread]
      exact ih hu

end AreClosings

mutual

theorem RankedType.areClosings : ∀ t : RankedType, AreClosings t.closings
  | .name _ => List.forall_mem_nil _
  | .generic _ arguments => by
    rw [RankedType.closings]
    split
    · exact arguments.areClosings
    · exact arguments.areClosings.append_singleton (.inl rfl)
  | .nullable type => by
    rw [RankedType.closings]
    split
    · exact type.areClosings
    · exact type.areClosings.append_singleton (.inr rfl)
  | .array type _ => type.areClosings
  | .tuple .. => List.forall_mem_nil _

theorem RankedArguments.areClosings : ∀ arguments : RankedArguments, AreClosings arguments.closings
  | .last type => type.areClosings
  | .cons _ more => more.areClosings

end

mutual

theorem RankedType.count_closings_le : ∀ t : RankedType, t.closings.count '>' ≤ t.openAngles
  | .name _ => Nat.le_refl 0
  | .generic _ arguments => by
    have harguments := arguments.count_closings_le
    rw [RankedType.closings, RankedType.openAngles]
    split
    · exact Nat.le_succ_of_le harguments
    · rw [List.count_append]
      exact Nat.succ_le_succ harguments
  | .nullable type => by
    have htype := type.count_closings_le
    rw [RankedType.closings, RankedType.openAngles]
    split
    · exact htype
    · rw [List.count_append]
      exact htype
  | .array type _ => type.count_closings_le
  | .tuple .. => Nat.le_refl 0

theorem RankedArguments.count_closings_le :
    ∀ arguments : RankedArguments, arguments.closings.count '>' ≤ arguments.openAngles
  | .last type => type.count_closings_le
  | .cons _ more => more.count_closings_le

end

/-! ## Stems -/

mutual

theorem RankedType.exists_last_stem : ∀ t : RankedType,
    ∃ rest c, t.stem = rest ++ [c] ∧ (c == '?') = false ∧ isBlank c = false
  | .name q => by
    obtain ⟨rest, c, hlast, hblank⟩ := q.typeText.trimmed.last
    have hpart := q.isNamePart_of_mem (hlast ▸ List.mem_concat_self)
    exact ⟨rest, c, hlast, beq_false_of_ne (ne_of_isNamePart hpart (by decide)), hblank⟩
  | .generic base arguments => by
    obtain ⟨rest, c, hlast, hends⟩ := arguments.exists_last_stem
    refine ⟨base.chars ++ ('<' :: rest), c, ?_, hends⟩
    rw [RankedType.stem, hlast, List.append_assoc]
    rfl
  | .nullable type => type.exists_last_stem
  | .array type _ => type.exists_last_stem
  | .tuple type label more =>
    ⟨'(' :: separated (elementChars type.chars label :: more.texts), ')', rfl, rfl, rfl⟩

theorem RankedArguments.exists_last_stem : ∀ arguments : RankedArguments,
    ∃ rest c, arguments.stem = rest ++ [c] ∧ (c == '?') = false ∧ isBlank c = false
  | .last type => type.exists_last_stem
  | .cons type more => by
    obtain ⟨rest, c, hlast, hends⟩ := more.exists_last_stem
    refine ⟨type.chars ++ (',' :: ' ' :: rest), c, ?_, hends⟩
    rw [RankedArguments.stem, hlast, List.append_assoc]
    rfl

end

theorem RankedType.trimmed_stem : ∀ t : RankedType, Trimmed t.stem
  | .name q => q.typeText.trimmed
  | .generic base arguments => by
    obtain ⟨rest, c, hlast, -, hblank⟩ := arguments.exists_last_stem
    rw [RankedType.stem, hlast]
    exact base.typeText.trimmed.append ('<' :: rest) (Trimmed.singleton hblank)
  | .nullable type => type.trimmed_stem
  | .array type _ => type.trimmed_stem
  | .tuple type label more =>
    Trimmed.append (Trimmed.singleton rfl)
      (separated (elementChars type.chars label :: more.texts)) (Trimmed.singleton rfl)

theorem RankedType.unranked_stem (t : RankedType) (h : t.RankedAtEnd) : '[' ∉ t.stem :=
  fun hmem => not_mem_upToRank t.chars (t.upToRank_chars h ▸ List.mem_append_left _ hmem)

theorem RankedArguments.unranked_stem (arguments : RankedArguments) (h : arguments.RankedAtEnd) :
    '[' ∉ arguments.stem :=
  fun hmem => not_mem_upToRank (separated arguments.texts)
    (arguments.upToRank_separated h ▸ List.mem_append_left _ hmem)

/-! ## No comma outside of brackets -/

theorem topLevelPieces_of_not_mem {cs : List Char} (h : ',' ∉ cs) (depth : Int) :
    topLevelPieces depth cs = [cs] := by
  induction cs generalizing depth with
  | nil => rfl
  | cons c cs ih =>
    obtain ⟨hc, hrest⟩ := not_or.1 (mt List.mem_cons.2 h)
    rw [topLevelPieces_cons fun _ => beq_false_of_ne fun heq => hc heq.symm, ih hrest]
    rfl

mutual

theorem RankedType.topLevelPieces_stem : ∀ t : RankedType, t.RankedAtEnd → ∀ {depth : Int},
    0 ≤ depth → ∀ {w : List Char}, ',' ∉ w → topLevelPieces depth (t.stem ++ w) = [t.stem ++ w]
  | .name q, _, _, hdepth, _, hw => by
    rw [RankedType.stem, q.typeText.itemText.sealed.topLevelPieces_append hdepth,
      topLevelPieces_of_not_mem hw]
    rfl
  | .generic base arguments, h, depth, hdepth, w, hw => by
    have hinside : 0 < depth + 1 := by omega
    have harguments := arguments.topLevelPieces_stem h hinside hw
    rw [RankedType.stem, List.append_assoc, List.cons_append,
      base.typeText.itemText.sealed.topLevelPieces_append hdepth, topLevelPieces_cons fun _ => rfl,
      show bracketStep '<' = 1 from rfl, harguments]
    rfl
  | .nullable type, h, _, hdepth, _, hw => type.topLevelPieces_stem h hdepth hw
  | .array type _, h, _, hdepth, _, hw => type.topLevelPieces_stem h hdepth hw
  | .tuple type label more, h, _, hdepth, _, hw => by
    have htext := (RankedType.tuple type label more).typeText h
    rw [RankedType.stem, htext.itemText.sealed.topLevelPieces_append hdepth,
      topLevelPieces_of_not_mem hw]
    rfl

theorem RankedArguments.topLevelPieces_stem : ∀ arguments : RankedArguments,
    arguments.RankedAtEnd → ∀ {depth : Int}, 0 < depth → ∀ {w : List Char}, ',' ∉ w →
      topLevelPieces depth (arguments.stem ++ w) = [arguments.stem ++ w]
  | .last type, h, _, hdepth, _, hw => type.topLevelPieces_stem h (Int.le_of_lt hdepth) hw
  | .cons type more, h, depth, hdepth, w, hw => by
    obtain ⟨htype, hmore⟩ := h
    have hinside : depth ≠ 0 := Int.ne_of_gt hdepth
    have hrest := more.topLevelPieces_stem hmore hdepth hw
    rw [RankedArguments.stem, List.append_assoc, List.cons_append, List.cons_append,
      (type.typeText htype).itemText.sealed.topLevelPieces_append (Int.le_of_lt hdepth),
      topLevelPieces_cons fun h0 => absurd h0 hinside, show bracketStep ',' = 0 from rfl,
      Int.add_zero, topLevelPieces_cons fun _ => rfl, show bracketStep ' ' = 0 from rfl,
      Int.add_zero, hrest]
    rfl

end

theorem RankedType.splitTopLevel_stem (t : RankedType) (h : t.RankedAtEnd) {w : List Char}
    (hw : AreClosings w) : splitTopLevel (t.stem ++ w) = [t.stem ++ w] := by
  have hends := hw.trimmed t.trimmed_stem
  rw [splitTopLevel, t.topLevelPieces_stem h (Int.le_refl 0) (hw.not_mem (by decide) (by decide))]
  simp [hends.trim_eq, hends.ne_nil]

/-! ## The names read -/

theorem RankedType.typeNames_unranked (t : RankedType) (h : '[' ∉ t.chars) :
    typeNames t.chars = keptNames t.erase.names := by
  rw [← t.chars_erase h]
  exact typeNames_chars t.erase

/-- The last closing angle bracket of a generic type is read as its own, unless there is none behind
its arguments. -/
theorem typeNames_generic_stem (base : TypeName) {arguments : RankedArguments}
    (h : arguments.RankedAtEnd) {w : List Char} (hw : AreClosings w) :
    (w.count '>' = 0 ∧ typeNames ((RankedType.generic base arguments).stem ++ w) =
      (splitTopLevel (upToClosingAngle arguments.stem)).flatMap typeNames ++
        keptNames [base.toQualifiedName]) ∨
    ∃ u, AreClosings u ∧ w.count '>' = u.count '>' + 1 ∧
      typeNames ((RankedType.generic base arguments).stem ++ w) =
        (splitTopLevel (arguments.stem ++ u)).flatMap typeNames ++
          keptNames [base.toQualifiedName] := by
  have hrank := arguments.unranked_stem h
  obtain ⟨rest, c, hlast, hmark, hblank⟩ := arguments.exists_last_stem
  obtain ⟨hzero, hread⟩ | ⟨u, hu, hsucc, hread⟩ :=
    hw.typeNames_append (RankedType.generic base arguments).trimmed_stem
      ((RankedType.generic base arguments).unranked_stem h)
  · refine .inl ⟨hzero, ?_⟩
    rw [hread, RankedType.stem, hlast, typeNames_open base.toQualifiedName hmark hblank (hlast ▸ hrank)]
  · refine .inr ⟨u, hu, hsucc, ?_⟩
    have hfree : '[' ∉ arguments.stem ++ u ++ ['>'] := by
      simp [hrank, hu.not_mem (c := '[') (by decide) (by decide)]
    rw [hread, RankedType.stem, List.append_assoc, List.cons_append, ← List.append_assoc,
      typeNames_open base.toQualifiedName rfl rfl hfree, upToClosingAngle_concat]

mutual

/-- Each generic type takes one closing angle bracket from those that are left, as long as there are
any; there are not more of them than generic types, so the last name gets none. -/
theorem RankedType.typeNames_stem : ∀ (t : RankedType) {w : List Char}, t.RankedAtEnd →
    AreClosings w → w.count '>' ≤ t.openAngles → t.AnglesFit (w.count '>') →
      typeNames (t.stem ++ w) = keptNames t.erase.names
  | .name q, w, _, hw, hcount, _ => by
    obtain ⟨-, hread⟩ | ⟨u, -, hu, -⟩ := hw.typeNames_append q.typeText.trimmed q.typeText.unranked
    · exact hread.trans (typeNames_chars (.name q))
    · exact absurd (hu ▸ hcount) (Nat.not_succ_le_zero _)
  | .generic base arguments, w, h, hw, hcount, hfit => by
    obtain ⟨hzero, hread⟩ | ⟨u, hu, hsucc, hread⟩ := typeNames_generic_stem base h hw
    · have harguments := arguments.typeNames_stem h (w := []) (List.forall_mem_nil _)
        (Nat.zero_le _) (by simpa [hzero] using hfit.2)
      rw [List.append_nil] at harguments
      rw [hread, upToClosingAngle_of_not_mem (hfit.1 hzero), harguments, ← keptNames_append]
      rfl
    · have harguments := arguments.typeNames_stem h hu (by
        rw [hsucc] at hcount
        exact Nat.le_of_succ_le_succ hcount) (by simpa [hsucc] using hfit.2)
      rw [hread, harguments, ← keptNames_append]
      rfl
  | .nullable type, _, h, hw, hcount, hfit => type.typeNames_stem h hw hcount hfit
  | .array type _, _, h, hw, hcount, hfit => type.typeNames_stem h hw hcount hfit
  | .tuple type label more, w, h, hw, hcount, _ => by
    have htext := (RankedType.tuple type label more).typeText h
    obtain ⟨-, hread⟩ | ⟨u, -, hu, -⟩ := hw.typeNames_append htext.trimmed h
    · exact hread.trans ((RankedType.tuple type label more).typeNames_unranked h)
    · exact absurd (hu ▸ hcount) (Nat.not_succ_le_zero _)

theorem RankedArguments.typeNames_stem : ∀ (arguments : RankedArguments) {w : List Char},
    arguments.RankedAtEnd → AreClosings w → w.count '>' ≤ arguments.openAngles →
      arguments.AnglesFit (w.count '>') →
        (splitTopLevel (arguments.stem ++ w)).flatMap typeNames = keptNames arguments.erase.names
  | .last type, w, h, hw, hcount, hfit => by
    rw [RankedArguments.stem, type.splitTopLevel_stem h hw, List.flatMap_singleton]
    exact type.typeNames_stem h hw hcount hfit
  | .cons type more, w, h, hw, hcount, hfit => by
    obtain ⟨htype, hmore⟩ := h
    have hitem := (type.typeText htype).itemText
    rw [RankedArguments.stem, List.append_assoc, List.cons_append, List.cons_append,
      splitTopLevel_append_comma hitem.sealed hitem.trimmed, List.flatMap_cons,
      type.typeNames_unranked htype, more.typeNames_stem hmore hw hcount hfit, ← keptNames_append]
    rfl

end

theorem bareType_upToRank {cs : List Char} (h : Trimmed cs) :
    bareType cs = bareType (upToRank cs) := by
  by_cases hmem : '[' ∈ cs
  · have hstart : trimStart (upToRank cs) = upToRank cs := by
      obtain ⟨c, rest, rfl, hc⟩ := h.head
      by_cases hrank : c = '['
      · rw [hrank]
        rfl
      · have hpass : upToRank (c :: rest) = c :: upToRank rest :=
          List.takeWhile_cons_of_pos (bne_iff_ne.2 hrank)
        rw [hpass]
        exact List.dropWhile_cons_of_neg (by rw [hc]; exact Bool.false_ne_true)
    have hfree : '[' ∉ trimEnd (upToRank cs) := fun h' =>
      not_mem_upToRank cs ((trimEnd_isPrefix _).subset h')
    have hsuffix : withoutArraySuffix cs = trimEnd (upToRank cs) := by
      rw [withoutArraySuffix, if_pos (by simpa using hmem)]
      rfl
    have hcut : trim (upToRank cs) = trimEnd (upToRank cs) := by rw [trim, hstart]
    rw [bareType, bareType, h.trim_eq, hsuffix, hcut, withoutArraySuffix_of_not_mem hfree]
  · rw [upToRank_eq_self hmem]

theorem RankedType.trimmed_chars : ∀ t : RankedType, Trimmed t.chars
  | .name q => q.typeText.trimmed
  | .generic base arguments =>
    base.typeText.trimmed.append ('<' :: separated arguments.texts) (Trimmed.singleton rfl)
  | .nullable type => type.trimmed_chars.append [] (Trimmed.singleton rfl)
  | .array type commas =>
    type.trimmed_chars.append ('[' :: List.replicate commas ',') (Trimmed.singleton rfl)
  | .tuple type label more =>
    Trimmed.append (Trimmed.singleton rfl)
      (separated (elementChars type.chars label :: more.texts)) (Trimmed.singleton rfl)

namespace RankedType

/-- Only what stands in front of the first rank is read. -/
theorem typeNames_upToRank (t : RankedType) : typeNames t.chars = typeNames (upToRank t.chars) :=
  typeNames_congr (bareType_upToRank t.trimmed_chars)

theorem typeNames_of_readable (t : RankedType) (h : t.Readable) :
    typeNames t.chars = typeNames t.erase.chars := by
  calc typeNames t.chars
      = typeNames (upToRank t.chars) := t.typeNames_upToRank
    _ = typeNames (t.stem ++ t.closings) := by rw [t.upToRank_chars h.1]
    _ = keptNames t.erase.names :=
        t.typeNames_stem h.1 t.areClosings t.count_closings_le h.2
    _ = typeNames t.erase.chars := (typeNames_chars t.erase).symm

end RankedType

end RefAtlas.Reference
