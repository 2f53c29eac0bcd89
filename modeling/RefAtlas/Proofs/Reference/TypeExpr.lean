import Mathlib.Data.List.TakeWhile
import RefAtlas.Proofs.Reference.Sealed

/-! # Type expressions

* `Identifier`, `QualifiedName`, `TypeName`: names as they are put together, and their text.
* `TypeExpr`: names, generic types, nullable types and tuples, nested to any depth.
* `TypeExpr.chars`, `TypeExpr.names`: the text of a type and the names in it.
* `TypeText`: what the readings of types rely on; `TypeExpr.typeText` says that the text of every
  type is of this kind.
-/

namespace RefAtlas.Reference
open RefAtlas.Text
set_option autoImplicit false

/-! ## Names -/

structure Identifier where
  first : Char
  rest : List Char
  starts : isNameStart first = true
  continues : ∀ c ∈ rest, isWord c = true

def Identifier.chars (i : Identifier) : List Char := i.first :: i.rest

/-- What stands between two identifiers of a name. -/
inductive Joint where
  | point
  | colons

def Joint.chars : Joint → List Char
  | .point => ['.']
  | .colons => [':', ':']

structure QualifiedName where
  first : Identifier
  more : List (Joint × Identifier)

namespace QualifiedName

def chars (q : QualifiedName) : List Char :=
  q.first.chars ++ q.more.flatMap fun s => s.1.chars ++ s.2.chars

def rootChars : List Char := ['g', 'l', 'o', 'b', 'a', 'l']

/-- The name without the root at its start, unless the root is all of it. -/
def withoutRoot (q : QualifiedName) : QualifiedName :=
  match q.more with
  | (.colons, next) :: more => if q.first.chars = rootChars then ⟨next, more⟩ else q
  | _ => q

def text (q : QualifiedName) : String := String.ofList q.chars

end QualifiedName

/-- A name that is no word which may stand in front of the type of a parameter. -/
structure TypeName extends QualifiedName where
  unmodified : toQualifiedName.text ∉ parameterModifiers

/-! ## Types -/

mutual

inductive TypeExpr where
  | name (name : TypeName)
  | generic (base : TypeName) (arguments : Arguments)
  | nullable (type : TypeExpr)
  | tuple (type : TypeExpr) (label : Option Identifier) (more : Elements)

/-- The arguments of a generic type. -/
inductive Arguments where
  | last (type : TypeExpr)
  | cons (type : TypeExpr) (more : Arguments)

/-- The elements of a tuple behind the first one. -/
inductive Elements where
  | last (type : TypeExpr) (label : Option Identifier)
  | cons (type : TypeExpr) (label : Option Identifier) (more : Elements)

end

/-- An element of a tuple: its type, with a label behind it if it has one. -/
def elementChars (type : List Char) (label : Option Identifier) : List Char :=
  match label with
  | some label => type ++ (' ' :: label.chars)
  | none => type

mutual

def TypeExpr.chars : TypeExpr → List Char
  | .name q => q.chars
  | .generic base arguments => base.chars ++ ('<' :: (separated arguments.texts ++ ['>']))
  | .nullable type => type.chars ++ ['?']
  | .tuple type label more =>
    '(' :: (separated (elementChars type.chars label :: more.texts) ++ [')'])

def Arguments.texts : Arguments → List (List Char)
  | .last type => [type.chars]
  | .cons type more => type.chars :: more.texts

def Elements.texts : Elements → List (List Char)
  | .last type label => [elementChars type.chars label]
  | .cons type label more => elementChars type.chars label :: more.texts

end

example : TypeExpr.chars (.tuple (.name ⟨⟨⟨'A', [], rfl, nofun⟩, []⟩, by decide⟩) none
    (.last (.nullable (.name ⟨⟨⟨'B', [], rfl, nofun⟩, []⟩, by decide⟩))
      (some ⟨'x', ['1'], rfl, List.forall_mem_singleton.2 rfl⟩))) = "(A, B? x1)".toList := by decide

mutual

/-- The names of a type, each argument before the name to which it is given. -/
def TypeExpr.names : TypeExpr → List QualifiedName
  | .name q => [q.toQualifiedName]
  | .generic base arguments => arguments.names ++ [base.toQualifiedName]
  | .nullable type => type.names
  | .tuple type _ more => type.names ++ more.names

def Arguments.names : Arguments → List QualifiedName
  | .last type => type.names
  | .cons type more => type.names ++ more.names

def Elements.names : Elements → List QualifiedName
  | .last type _ => type.names
  | .cons type _ more => type.names ++ more.names

end

def rankChars (commas : Nat) : List Char := '[' :: (List.replicate commas ',' ++ [']'])

/-! ## The characters of names -/

def isNamePart (c : Char) : Bool := isWord c || isSeparator c

theorem isNamePart_of_isWord {c : Char} (h : isWord c = true) : isNamePart c = true := by
  rw [isNamePart, h, Bool.true_or]

theorem ne_of_isNamePart {c d : Char} (h : isNamePart c = true) (hd : isNamePart d = false) :
    c ≠ d := by
  rintro rfl
  rw [h] at hd
  cases hd

theorem isBlank_eq_false_of_isNamePart {c : Char} (h : isNamePart c = true) : isBlank c = false := by
  simp only [isNamePart, isSeparator, Bool.or_eq_true, beq_iff_eq] at h
  obtain h | rfl | rfl := h
  · exact isBlank_eq_false_of_isWord h
  · rfl
  · rfl

theorem bracketStep_of_isNamePart {c : Char} (h : isNamePart c = true) : bracketStep c = 0 := by
  have hne : ∀ d, isNamePart d = false → (c == d) = false :=
    fun d hd => beq_false_of_ne (ne_of_isNamePart h hd)
  simp [bracketStep, hne '<' (by decide), hne '(' (by decide), hne '[' (by decide),
    hne '>' (by decide), hne ')' (by decide), hne ']' (by decide)]

theorem Identifier.isWord_of_mem (i : Identifier) {c : Char} (h : c ∈ i.chars) :
    isWord c = true := by
  rcases List.mem_cons.1 h with rfl | h
  · exact isWord_of_isNameStart i.starts
  · exact i.continues c h

theorem QualifiedName.isNamePart_of_mem (q : QualifiedName) {c : Char} (h : c ∈ q.chars) :
    isNamePart c = true := by
  rcases List.mem_append.1 h with h | h
  · exact isNamePart_of_isWord (q.first.isWord_of_mem h)
  · obtain ⟨⟨joint, i⟩, _, h⟩ := List.mem_flatMap.1 h
    rcases List.mem_append.1 h with h | h
    · cases joint <;> simp_all [Joint.chars, isNamePart, isSeparator]
    · exact isNamePart_of_isWord (i.isWord_of_mem h)

theorem QualifiedName.isBlank_eq_false_of_mem (q : QualifiedName) {c : Char} (h : c ∈ q.chars) :
    isBlank c = false :=
  isBlank_eq_false_of_isNamePart (q.isNamePart_of_mem h)

/-! ## What the readings of types rely on -/

/-- One text of a list: commas stand in brackets only. -/
structure ItemText (cs : List Char) : Prop where
  sealed : Sealed (· == ',') cs
  unranked : '[' ∉ cs
  trimmed : Trimmed cs

/-- A type: white space stands in brackets only as well, and no modifier is its first word. -/
structure TypeText (cs : List Char) : Prop where
  sealed : Sealed (fun c => c == ',' || isBlank c) cs
  unranked : '[' ∉ cs
  trimmed : Trimmed cs
  unmodified : ∀ tail : List Char, (∀ c ∈ tail.head?, isBlank c = true) →
    String.ofList (firstWord (cs ++ tail)) ∉ parameterModifiers

theorem TypeText.itemText {cs : List Char} (h : TypeText cs) : ItemText cs where
  sealed := h.sealed.mono fun _ hc => (Bool.or_eq_false_iff.1 hc).1
  unranked := h.unranked
  trimmed := h.trimmed

theorem TypeText.sealed_blank {cs : List Char} (h : TypeText cs) : Sealed isBlank cs :=
  h.sealed.mono fun _ hc => (Bool.or_eq_false_iff.1 hc).2

/-! ### First words -/

theorem all_modifiers_isWord : (parameterModifiers.all fun m => m.toList.all isWord) = true := by
  decide

theorem not_modifier_of_mem {word : List Char} {c : Char} (h : c ∈ word) (hc : isWord c = false) :
    String.ofList word ∉ parameterModifiers := by
  intro hmem
  have hword := List.all_eq_true.1 (List.all_eq_true.1 all_modifiers_isWord _ hmem) c
  rw [String.toList_ofList, hc] at hword
  cases hword h

theorem firstWord_append {cs tail : List Char} (h : ∀ c ∈ cs, isBlank c = false) :
    firstWord (cs ++ tail) = cs ++ firstWord tail :=
  List.takeWhile_append_of_pos fun c hc => by rw [h c hc]; rfl

theorem firstWord_append_of_blank {cs tail : List Char} (h : ¬∀ c ∈ cs, isBlank c = false) :
    firstWord (cs ++ tail) = firstWord cs := by
  rw [firstWord, List.takeWhile_append, if_neg]
  · rfl
  · intro hlength
    have hall := (List.takeWhile_prefix fun c => !isBlank c).eq_of_length hlength
    refine h fun c hc => ?_
    have hc' := List.takeWhile_eq_self_iff.1 hall c hc
    simpa using hc'

theorem firstWord_eq_nil {tail : List Char} (h : ∀ c ∈ tail.head?, isBlank c = true) :
    firstWord tail = [] := by
  cases tail with
  | nil => rfl
  | cons c rest => simp [firstWord, h c rfl]

theorem mem_firstWord {cs rest : List Char} {c : Char} (h : ∀ d ∈ cs, isBlank d = false)
    (hc : isBlank c = false) : c ∈ firstWord (cs ++ c :: rest) := by
  rw [firstWord_append h]
  refine List.mem_append_right cs ?_
  simp [firstWord, hc]

/-! ### Types of every form -/

theorem QualifiedName.trimmed (q : QualifiedName) : Trimmed q.chars :=
  Trimmed.of_forall (List.cons_ne_nil _ _) fun _ => q.isBlank_eq_false_of_mem

theorem QualifiedName.unranked (q : QualifiedName) : '[' ∉ q.chars := fun hmem =>
  ne_of_isNamePart (q.isNamePart_of_mem hmem) (d := '[') (by decide) rfl

theorem QualifiedName.sealed (q : QualifiedName) :
    Sealed (fun c => c == ',' || isBlank c) q.chars :=
  Sealed.of_forall fun c hc => by
    have hpart := q.isNamePart_of_mem hc
    have hcomma : (c == ',') = false := beq_false_of_ne (ne_of_isNamePart hpart (by decide))
    refine ⟨bracketStep_of_isNamePart hpart, ?_⟩
    rw [hcomma, isBlank_eq_false_of_isNamePart hpart, Bool.or_false]

theorem QualifiedName.itemText (q : QualifiedName) : ItemText q.chars where
  sealed := q.sealed.mono fun _ hc => (Bool.or_eq_false_iff.1 hc).1
  unranked := q.unranked
  trimmed := q.trimmed

theorem TypeName.typeText (q : TypeName) : TypeText q.chars where
  sealed := q.sealed
  unranked := q.unranked
  trimmed := q.trimmed
  unmodified tail htail := by
    rw [firstWord_append fun _ => q.isBlank_eq_false_of_mem, firstWord_eq_nil htail,
      List.append_nil]
    exact q.unmodified

theorem TypeText.nullable {cs : List Char} (h : TypeText cs) : TypeText (cs ++ ['?']) where
  sealed := h.sealed.append (.char rfl rfl .nil)
  unranked := by simpa using h.unranked
  trimmed := h.trimmed.append [] (Trimmed.singleton rfl)
  unmodified tail htail := by
    rw [List.append_assoc, List.singleton_append]
    -- The question mark is in the first word unless white space stands in front of it.
    by_cases hblank : ∀ c ∈ cs, isBlank c = false
    · exact not_modifier_of_mem (mem_firstWord hblank rfl) (by decide)
    · have hself := h.unmodified [] (by simp)
      rw [List.append_nil] at hself
      rwa [firstWord_append_of_blank hblank]

section Enclosed
variable {texts : List (List Char)}

theorem sealed_enclosed {p : Char → Bool} {o c : Char} (h : ∀ cs ∈ texts, ItemText cs)
    (hopen : bracketStep o = 1) (hfree : p o = false) (hclose : bracketStep c = -1) :
    Sealed p (o :: (separated texts ++ [c])) :=
  .bracket hopen hfree (Sealed.separated fun cs hcs => (h cs hcs).sealed.mono fun _ _ => rfl) hclose
    .nil

theorem not_mem_separated (h : ∀ cs ∈ texts, ItemText cs) : '[' ∉ separated texts := fun hmem =>
  forall_mem_separated (p := (· ≠ '[')) (fun cs hcs _ hc heq => (h cs hcs).unranked (heq ▸ hc))
    (by decide) (by decide) _ hmem rfl

theorem typeText_generic (q : TypeName) (h : ∀ cs ∈ texts, ItemText cs) :
    TypeText (q.chars ++ ('<' :: (separated texts ++ ['>']))) where
  sealed := q.typeText.sealed.append (sealed_enclosed h rfl rfl rfl)
  unranked := by
    have hname := q.typeText.unranked
    have htexts := not_mem_separated h
    simp [hname, htexts]
  trimmed := by
    have hends := q.typeText.trimmed.append ('<' :: separated texts) (Trimmed.singleton (c := '>') rfl)
    simpa using hends
  unmodified tail _ := by
    have hmem : '<' ∈ firstWord (q.chars ++ ('<' :: (separated texts ++ ['>'] ++ tail))) :=
      mem_firstWord (fun _ => q.isBlank_eq_false_of_mem) rfl
    rw [List.append_assoc, List.cons_append]
    exact not_modifier_of_mem hmem (by decide)

theorem typeText_tuple (h : ∀ cs ∈ texts, ItemText cs) :
    TypeText ('(' :: (separated texts ++ [')'])) where
  sealed := sealed_enclosed h rfl rfl rfl
  unranked := by
    have htexts := not_mem_separated h
    simp [htexts]
  trimmed := Trimmed.append (Trimmed.singleton rfl) (separated texts) (Trimmed.singleton rfl)
  unmodified tail _ := by
    have hmem : '(' ∈ firstWord ([] ++ ('(' :: (separated texts ++ [')'] ++ tail))) :=
      mem_firstWord (fun _ hc => absurd hc List.not_mem_nil) rfl
    exact not_modifier_of_mem hmem (by decide)

end Enclosed

theorem TypeText.element {cs : List Char} (h : TypeText cs) (label : Option Identifier) :
    ItemText (elementChars cs label) := by
  cases label with
  | none => exact h.itemText
  | some label =>
    have hword : ∀ c ∈ label.chars, isNamePart c = true :=
      fun c hc => isNamePart_of_isWord (label.isWord_of_mem hc)
    have hcomma : ∀ c ∈ label.chars, bracketStep c = 0 ∧ (c == ',') = false := fun c hc =>
      ⟨bracketStep_of_isNamePart (hword c hc),
        beq_false_of_ne (ne_of_isNamePart (hword c hc) (by decide))⟩
    have hrank : '[' ∉ label.chars := fun hmem =>
      ne_of_isNamePart (hword _ hmem) (d := '[') (by decide) rfl
    have hends : Trimmed label.chars := Trimmed.of_forall (List.cons_ne_nil _ _) fun c hc =>
      isBlank_eq_false_of_isNamePart (hword c hc)
    exact ⟨h.itemText.sealed.append (.char rfl rfl (Sealed.of_forall hcomma)),
      by simp [elementChars, h.unranked, hrank], h.trimmed.append [' '] hends⟩

mutual

theorem TypeExpr.typeText : ∀ t : TypeExpr, TypeText t.chars
  | .name q => q.typeText
  | .generic base arguments => typeText_generic base arguments.itemText
  | .nullable type => type.typeText.nullable
  | .tuple type label more =>
    typeText_tuple (List.forall_mem_cons.2 ⟨type.typeText.element label, more.itemText⟩)

theorem Arguments.itemText : ∀ arguments : Arguments, ∀ cs ∈ arguments.texts, ItemText cs
  | .last type => List.forall_mem_singleton.2 type.typeText.itemText
  | .cons type more => List.forall_mem_cons.2 ⟨type.typeText.itemText, more.itemText⟩

theorem Elements.itemText : ∀ elements : Elements, ∀ cs ∈ elements.texts, ItemText cs
  | .last type label => List.forall_mem_singleton.2 (type.typeText.element label)
  | .cons type label more => List.forall_mem_cons.2 ⟨type.typeText.element label, more.itemText⟩

end

end RefAtlas.Reference
