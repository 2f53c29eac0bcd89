import RefAtlas.Proofs.Reference.TypeExpr

/-! # Types with array ranks

* `RankedType`: type expressions with the suffixes of arrays at any place in them.
* `RankedType.erase`: the type without its ranks, as a `TypeExpr`; `RankedType.chars_erase`.
* `RankedType.stem`, `RankedType.closings`: the text of a type up to the last name in front of its
  first rank, and what stands between them; `RankedType.upToRank_chars`.
-/

namespace RefAtlas.Reference
open RefAtlas.Text
set_option autoImplicit false

mutual

inductive RankedType where
  | name (name : TypeName)
  | generic (base : TypeName) (arguments : RankedArguments)
  | nullable (type : RankedType)
  | array (type : RankedType) (commas : Nat)
  | tuple (type : RankedType) (label : Option Identifier) (more : RankedElements)

inductive RankedArguments where
  | last (type : RankedType)
  | cons (type : RankedType) (more : RankedArguments)

inductive RankedElements where
  | last (type : RankedType) (label : Option Identifier)
  | cons (type : RankedType) (label : Option Identifier) (more : RankedElements)

end

mutual

def RankedType.chars : RankedType → List Char
  | .name q => q.chars
  | .generic base arguments => base.chars ++ ('<' :: (separated arguments.texts ++ ['>']))
  | .nullable type => type.chars ++ ['?']
  | .array type commas => type.chars ++ rankChars commas
  | .tuple type label more =>
    '(' :: (separated (elementChars type.chars label :: more.texts) ++ [')'])

def RankedArguments.texts : RankedArguments → List (List Char)
  | .last type => [type.chars]
  | .cons type more => type.chars :: more.texts

def RankedElements.texts : RankedElements → List (List Char)
  | .last type label => [elementChars type.chars label]
  | .cons type label more => elementChars type.chars label :: more.texts

end

mutual

/-- The type without the suffixes of arrays. -/
def RankedType.erase : RankedType → TypeExpr
  | .name q => .name q
  | .generic base arguments => .generic base arguments.erase
  | .nullable type => .nullable type.erase
  | .array type _ => type.erase
  | .tuple type label more => .tuple type.erase label more.erase

def RankedArguments.erase : RankedArguments → Arguments
  | .last type => .last type.erase
  | .cons type more => .cons type.erase more.erase

def RankedElements.erase : RankedElements → Elements
  | .last type label => .last type.erase label
  | .cons type label more => .cons type.erase label more.erase

end

/-! ## Types without ranks -/

section Texts
variable {texts : List (List Char)}

theorem not_mem_of_not_mem_separated (h : '[' ∉ separated texts) : ∀ cs ∈ texts, '[' ∉ cs := by
  induction texts with
  | nil => exact fun _ hcs => absurd hcs List.not_mem_nil
  | cons cs texts ih =>
    cases texts with
    | nil =>
      rw [separated, List.intercalate_singleton] at h
      exact List.forall_mem_singleton.2 h
    | cons cs' texts =>
      rw [separated_cons] at h
      simp only [List.mem_append, List.mem_cons, not_or] at h
      exact List.forall_mem_cons.2 ⟨h.1, ih h.2.2.2⟩

theorem not_mem_of_not_mem_elementChars {cs : List Char} {label : Option Identifier}
    (h : '[' ∉ elementChars cs label) : '[' ∉ cs := by
  cases label with
  | none => exact h
  | some label => exact fun hmem => h (List.mem_append_left _ hmem)

end Texts

mutual

theorem RankedType.chars_erase : ∀ t : RankedType, '[' ∉ t.chars → t.erase.chars = t.chars
  | .name _, _ => rfl
  | .generic base arguments, h => by
    have harguments : '[' ∉ separated arguments.texts := fun hmem => h (by
      rw [RankedType.chars]
      simp [hmem])
    rw [RankedType.erase, TypeExpr.chars, RankedType.chars,
      arguments.texts_erase (not_mem_of_not_mem_separated harguments)]
  | .nullable type, h => by
    rw [RankedType.erase, TypeExpr.chars, RankedType.chars,
      type.chars_erase fun hmem => h (List.mem_append_left _ hmem)]
  | .array type commas, h =>
    absurd (List.mem_append_right type.chars List.mem_cons_self) h
  | .tuple type label more, h => by
    have helements : '[' ∉ separated (elementChars type.chars label :: more.texts) := fun hmem =>
      h (List.mem_cons_of_mem _ (List.mem_append_left _ hmem))
    obtain ⟨hfirst, hmore⟩ := List.forall_mem_cons.1 (not_mem_of_not_mem_separated helements)
    rw [RankedType.erase, TypeExpr.chars, RankedType.chars,
      type.chars_erase (not_mem_of_not_mem_elementChars hfirst), more.texts_erase hmore]

theorem RankedArguments.texts_erase : ∀ arguments : RankedArguments,
    (∀ cs ∈ arguments.texts, '[' ∉ cs) → arguments.erase.texts = arguments.texts
  | .last type, h => by
    rw [RankedArguments.erase, Arguments.texts, RankedArguments.texts,
      type.chars_erase (h _ List.mem_cons_self)]
  | .cons type more, h => by
    obtain ⟨hfirst, hmore⟩ := List.forall_mem_cons.1 h
    rw [RankedArguments.erase, Arguments.texts, RankedArguments.texts, type.chars_erase hfirst,
      more.texts_erase hmore]

theorem RankedElements.texts_erase : ∀ elements : RankedElements,
    (∀ cs ∈ elements.texts, '[' ∉ cs) → elements.erase.texts = elements.texts
  | .last type label, h => by
    have hfirst := h _ List.mem_cons_self
    rw [RankedElements.erase, Elements.texts, RankedElements.texts,
      type.chars_erase (not_mem_of_not_mem_elementChars hfirst)]
  | .cons type label more, h => by
    obtain ⟨hfirst, hmore⟩ := List.forall_mem_cons.1 h
    rw [RankedElements.erase, Elements.texts, RankedElements.texts,
      type.chars_erase (not_mem_of_not_mem_elementChars hfirst), more.texts_erase hmore]

end

theorem RankedType.typeText (t : RankedType) (h : '[' ∉ t.chars) : TypeText t.chars :=
  t.chars_erase h ▸ t.erase.typeText

/-! ## Up to the first rank -/

mutual

/-- The text of a type whose last argument is cut off behind its last name, or behind the tuple that
it is; what stands behind that name is left out. -/
def RankedType.stem : RankedType → List Char
  | .name q => q.chars
  | .generic base arguments => base.chars ++ ('<' :: arguments.stem)
  | .nullable type => type.stem
  | .array type _ => type.stem
  | .tuple type label more => (RankedType.tuple type label more).chars

def RankedArguments.stem : RankedArguments → List Char
  | .last type => type.stem
  | .cons type more => type.chars ++ (',' :: ' ' :: more.stem)

end

mutual

/-- What stands behind the stem of a type up to its first rank: the closing angle brackets and the
question marks of the types that end there. -/
def RankedType.closings : RankedType → List Char
  | .name _ => []
  | .generic _ arguments =>
    if '[' ∈ separated arguments.texts then arguments.closings else arguments.closings ++ ['>']
  | .nullable type => if '[' ∈ type.chars then type.closings else type.closings ++ ['?']
  | .array type _ => type.closings
  | .tuple .. => []

def RankedArguments.closings : RankedArguments → List Char
  | .last type => type.closings
  | .cons _ more => more.closings

end

mutual

/-- The first rank stands behind all names: no argument in front of another one has a rank, and no
tuple has one inside. -/
def RankedType.RankedAtEnd : RankedType → Prop
  | .name _ => True
  | .generic _ arguments => arguments.RankedAtEnd
  | .nullable type => type.RankedAtEnd
  | .array type _ => type.RankedAtEnd
  | .tuple type label more => '[' ∉ (RankedType.tuple type label more).chars

def RankedArguments.RankedAtEnd : RankedArguments → Prop
  | .last type => type.RankedAtEnd
  | .cons type more => '[' ∉ type.chars ∧ more.RankedAtEnd

end

def upToRank (cs : List Char) : List Char := cs.takeWhile (· != '[')

theorem not_mem_upToRank (cs : List Char) : '[' ∉ upToRank cs := by
  intro hmem
  have hne := List.mem_takeWhile_imp hmem
  exact absurd hne (by decide)

theorem upToRank_append (cs ds : List Char) :
    upToRank (cs ++ ds) = if '[' ∈ cs then upToRank cs else cs ++ upToRank ds := by
  by_cases hmem : '[' ∈ cs
  · rw [if_pos hmem]
    induction cs with
    | nil => cases hmem
    | cons c cs ih =>
      by_cases hc : c = '['
      · rw [hc]
        rfl
      · have hrest : '[' ∈ cs := (List.mem_cons.1 hmem).resolve_left fun h => hc h.symm
        have hpass : ∀ rest, upToRank (c :: rest) = c :: upToRank rest :=
          fun rest => List.takeWhile_cons_of_pos (bne_iff_ne.2 hc)
        rw [List.cons_append, hpass, hpass, ih hrest]
  · rw [if_neg hmem]
    refine List.takeWhile_append_of_pos fun c hc => bne_iff_ne.2 ?_
    rintro rfl
    exact hmem hc

theorem upToRank_eq_self {cs : List Char} (h : '[' ∉ cs) : upToRank cs = cs := by
  have happend := upToRank_append cs []
  rwa [if_neg h, List.append_nil, show upToRank [] = [] from rfl, List.append_nil] at happend

theorem upToRank_isPrefix (cs : List Char) : upToRank cs <+: cs := List.takeWhile_prefix _

theorem RankedArguments.texts_ne_nil (arguments : RankedArguments) : arguments.texts ≠ [] := by
  cases arguments <;> exact List.cons_ne_nil _ _

theorem RankedElements.texts_ne_nil (elements : RankedElements) : elements.texts ≠ [] := by
  cases elements <;> exact List.cons_ne_nil _ _

mutual

theorem RankedType.upToRank_chars : ∀ t : RankedType, t.RankedAtEnd →
    upToRank t.chars = t.stem ++ t.closings
  | .name q, _ => by
    rw [RankedType.chars, upToRank_eq_self q.typeText.unranked, RankedType.stem,
      RankedType.closings, List.append_nil]
  | .generic base arguments, h => by
    have harguments := arguments.upToRank_separated h
    have hbase : '[' ∉ base.chars ++ ['<'] := by simp [base.typeText.unranked]
    rw [RankedType.chars, RankedType.stem, RankedType.closings, List.append_cons,
      List.append_cons base.chars '<' arguments.stem, upToRank_append, if_neg hbase,
      upToRank_append]
    split
    · rw [harguments, ← List.append_assoc]
    · rename_i hrank
      rw [upToRank_eq_self hrank] at harguments
      rw [harguments]
      simp [upToRank]
  | .nullable type, h => by
    have htype := type.upToRank_chars h
    rw [RankedType.chars, RankedType.stem, RankedType.closings, upToRank_append]
    split
    · exact htype
    · rename_i hrank
      rw [upToRank_eq_self hrank] at htype
      rw [htype, List.append_assoc]
      rfl
  | .array type commas, h => by
    have htype := type.upToRank_chars h
    rw [RankedType.chars, RankedType.stem, RankedType.closings, upToRank_append, ← htype]
    split
    · rfl
    · rename_i hrank
      rw [upToRank_eq_self hrank]
      exact List.append_nil _
  | .tuple type label more, h => by
    rw [upToRank_eq_self h, RankedType.stem, RankedType.closings, List.append_nil]

theorem RankedArguments.upToRank_separated : ∀ arguments : RankedArguments,
    arguments.RankedAtEnd →
      upToRank (separated arguments.texts) = arguments.stem ++ arguments.closings
  | .last type, h => by
    rw [RankedArguments.texts, separated, List.intercalate_singleton]
    exact type.upToRank_chars h
  | .cons type more, h => by
    obtain ⟨htype, hmore⟩ := h
    have hfront : '[' ∉ type.chars ++ [','] ++ [' '] := by simpa using htype
    rw [RankedArguments.texts, separated_cons_of_ne_nil more.texts_ne_nil, List.append_cons,
      List.append_cons, upToRank_append, if_neg hfront, more.upToRank_separated hmore,
      RankedArguments.stem, RankedArguments.closings]
    simp

end

end RefAtlas.Reference
