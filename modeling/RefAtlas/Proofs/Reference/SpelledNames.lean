import RefAtlas.Proofs.Reference.HeadWords
import RefAtlas.Proofs.Reference.RankedType

/-! # The names of a type as they are written

* `RankedType.spelled`: the names of a type in the order of its text; they are its head words
  (`RankedType.headWords_eq`), and without ranks the same names are in it
  (`RankedType.names_erase_perm`).
* `OpensFirst`: no parenthesis is closed before it is opened; `RankedType.opensFirst`.
-/

namespace RefAtlas.Reference
open RefAtlas.Text
set_option autoImplicit false

mutual

/-- The names of a type in the order of its text. -/
def RankedType.spelled : RankedType → List TypeName
  | .name q => [q]
  | .generic base arguments => base :: arguments.spelled
  | .nullable type => type.spelled
  | .array type _ => type.spelled
  | .tuple type _ more => type.spelled ++ more.spelled

def RankedArguments.spelled : RankedArguments → List TypeName
  | .last type => type.spelled
  | .cons type more => type.spelled ++ more.spelled

def RankedElements.spelled : RankedElements → List TypeName
  | .last type _ => type.spelled
  | .cons type _ more => type.spelled ++ more.spelled

end

def spellings (names : List TypeName) : List (List Char) := names.map fun q => q.chars

mutual

theorem RankedType.names_erase_perm : ∀ t : RankedType,
    t.erase.names.Perm (t.spelled.map TypeName.toQualifiedName)
  | .name _ => .refl _
  | .generic base arguments =>
    (arguments.names_erase_perm.append_right _).trans List.perm_append_comm
  | .nullable type => type.names_erase_perm
  | .array type _ => type.names_erase_perm
  | .tuple type _ more => by
    rw [RankedType.spelled, List.map_append]
    exact type.names_erase_perm.append more.names_erase_perm

theorem RankedArguments.names_erase_perm : ∀ arguments : RankedArguments,
    arguments.erase.names.Perm (arguments.spelled.map TypeName.toQualifiedName)
  | .last type => type.names_erase_perm
  | .cons type more => by
    rw [RankedArguments.spelled, List.map_append]
    exact type.names_erase_perm.append more.names_erase_perm

theorem RankedElements.names_erase_perm : ∀ elements : RankedElements,
    elements.erase.names.Perm (elements.spelled.map TypeName.toQualifiedName)
  | .last type _ => type.names_erase_perm
  | .cons type _ more => by
    rw [RankedElements.spelled, List.map_append]
    exact type.names_erase_perm.append more.names_erase_perm

end

/-! ## The words of a type -/

theorem startsItem_append {cs : List Char} (h : startsItem cs = true) (ds : List Char) :
    startsItem (cs ++ ds) = true := by
  cases cs with
  | nil => cases h
  | cons c cs => exact h

theorem TypeName.startsItem_chars (q : TypeName) : startsItem q.chars = true := by
  have hfirst := isNamePart_of_isWord (isWord_of_isNameStart q.first.starts)
  exact Bool.or_eq_true_iff.2 (.inl hfirst)

theorem RankedType.startsItem_chars : ∀ t : RankedType, startsItem t.chars = true
  | .name q => q.startsItem_chars
  | .generic base _ => startsItem_append base.startsItem_chars _
  | .nullable type => startsItem_append type.startsItem_chars _
  | .array type _ => startsItem_append type.startsItem_chars _
  | .tuple .. => rfl

theorem headWords_rankChars (commas : Nat) (rest : List Char) :
    headWords false (rankChars commas ++ rest) = headWords false rest := by
  have hcommas : ∀ (fresh : Bool) (n : Nat),
      headWords fresh (List.replicate n ',' ++ ']' :: rest) = headWords false rest := by
    intro fresh n
    induction n generalizing fresh with
    | zero =>
      rw [List.replicate_zero, List.nil_append, headWords_cons_of_not (by decide) (by decide)]
      cases fresh <;> rfl
    | succ n ih =>
      rw [List.replicate_succ, List.cons_append, headWords_cons_of_not (by decide) (by decide), ih]
  rw [rankChars, List.cons_append, List.append_assoc, List.singleton_append,
    headWords_cons_of_not (by decide) (by decide)]
  exact hcommas false commas

/-- Behind a name, a bracket or a question mark, a list goes on with its next text. -/
theorem headWords_separator (cs : List Char) :
    headWords false (',' :: ' ' :: cs) = headWords true cs := by
  rw [headWords_cons_of_not (by decide) (by decide), headWords_cons_of_not (by decide) (by decide)]
  rfl

theorem headWords_elementChars {cs : List Char} {words : List (List Char)}
    (h : ∀ rest : List Char, (∀ d ∈ rest.head?, isNamePart d = false) →
      headWords true (cs ++ rest) = words ++ headWords false rest)
    (label : Option Identifier) (rest : List Char)
    (hrest : ∀ d ∈ rest.head?, isNamePart d = false) :
    headWords true (elementChars cs label ++ rest) = words ++ headWords false rest := by
  cases label with
  | none => exact h rest hrest
  | some label =>
    have hlabel : ∀ c ∈ label.chars, isNamePart c = true :=
      fun c hc => isNamePart_of_isWord (label.isWord_of_mem hc)
    rw [elementChars, List.append_assoc, h _ (by simp; decide), List.cons_append,
      headWords_cons_of_not (by decide) (by decide), Bool.false_and, Bool.or_false]
    exact congrArg (words ++ ·) (headWords_stale hlabel rest)

theorem TypeName.headWords_base (q : TypeName) (cs : List Char) :
    headWords true (q.chars ++ ('<' :: cs)) = q.chars :: headWords true cs := by
  have hname : headWords true (q.chars ++ []) = q.chars :: headWords false [] :=
    headWords_word (List.cons_ne_nil _ _) (fun _ => q.isNamePart_of_mem) (by simp)
  rw [List.append_nil, headWords] at hname
  rw [headWords_append_fresh (.inr rfl), hname, List.singleton_append]

mutual

theorem RankedType.headWords_chars : ∀ (t : RankedType) (rest : List Char),
    (∀ d ∈ rest.head?, isNamePart d = false) →
      headWords true (t.chars ++ rest) = spellings t.spelled ++ headWords false rest
  | .name q, rest, hrest =>
    headWords_word (List.cons_ne_nil _ _) (fun _ => q.isNamePart_of_mem) hrest
  | .generic base arguments, rest, _ => by
    have harguments := arguments.headWords_separated ('>' :: rest) (by simp; decide)
    rw [RankedType.chars, List.append_assoc, List.cons_append, base.headWords_base,
      List.append_assoc, List.singleton_append, harguments,
      headWords_cons_of_not (by decide) (by decide)]
    rfl
  | .nullable type, rest, _ => by
    rw [RankedType.chars, List.append_assoc, type.headWords_chars _ (by simp; decide),
      List.singleton_append, headWords_cons_of_not (by decide) (by decide)]
    rfl
  | .array type commas, rest, _ => by
    rw [RankedType.chars, List.append_assoc, type.headWords_chars _ (by simp [rankChars]; decide),
      headWords_rankChars]
    rfl
  | .tuple type label more, rest, _ => by
    have hstarts : startsItem (separated (elementChars type.chars label :: more.texts) ++
        (')' :: rest)) = true := by
      rw [separated_cons_of_ne_nil more.texts_ne_nil, List.append_assoc]
      cases label with
      | none => exact startsItem_append type.startsItem_chars _
      | some label =>
        rw [elementChars, List.append_assoc]
        exact startsItem_append type.startsItem_chars _
    have hfirst := headWords_elementChars type.headWords_chars label
      (',' :: ' ' :: (separated more.texts ++ (')' :: rest))) (by simp; decide)
    have hmore := more.headWords_separated (')' :: rest) (by simp; decide)
    rw [RankedType.chars, List.cons_append, List.append_assoc, List.singleton_append,
      headWords_paren, if_pos hstarts, separated_cons_of_ne_nil more.texts_ne_nil,
      List.append_assoc, List.cons_append, List.cons_append, hfirst, headWords_separator, hmore,
      headWords_cons_of_not (by decide) (by decide), RankedType.spelled, spellings, spellings,
      spellings, List.map_append, List.append_assoc]
    rfl

theorem RankedArguments.headWords_separated : ∀ (arguments : RankedArguments) (rest : List Char),
    (∀ d ∈ rest.head?, isNamePart d = false) →
      headWords true (separated arguments.texts ++ rest) =
        spellings arguments.spelled ++ headWords false rest
  | .last type, rest, hrest => by
    rw [RankedArguments.texts, separated, List.intercalate_singleton]
    exact type.headWords_chars rest hrest
  | .cons type more, rest, hrest => by
    have hmore := more.headWords_separated rest hrest
    rw [RankedArguments.texts, separated_cons_of_ne_nil more.texts_ne_nil, List.append_assoc,
      List.cons_append, List.cons_append, type.headWords_chars _ (by simp; decide),
      headWords_separator, hmore, RankedArguments.spelled, spellings, spellings, spellings,
      List.map_append, List.append_assoc]

theorem RankedElements.headWords_separated : ∀ (elements : RankedElements) (rest : List Char),
    (∀ d ∈ rest.head?, isNamePart d = false) →
      headWords true (separated elements.texts ++ rest) =
        spellings elements.spelled ++ headWords false rest
  | .last type label, rest, hrest => by
    rw [RankedElements.texts, separated, List.intercalate_singleton]
    exact headWords_elementChars type.headWords_chars label rest hrest
  | .cons type label more, rest, hrest => by
    have hmore := more.headWords_separated rest hrest
    have hfirst := headWords_elementChars type.headWords_chars label
      (',' :: ' ' :: (separated more.texts ++ rest)) (by simp; decide)
    rw [RankedElements.texts, separated_cons_of_ne_nil more.texts_ne_nil, List.append_assoc,
      List.cons_append, List.cons_append, hfirst, headWords_separator, hmore,
      RankedElements.spelled, spellings, spellings, spellings, List.map_append, List.append_assoc]

end

theorem RankedType.headWords_eq (t : RankedType) :
    headWords true t.chars = spellings t.spelled := by
  have hwords := t.headWords_chars [] (by simp)
  rwa [List.append_nil, headWords, List.append_nil] at hwords

theorem RankedArguments.headWords_eq (arguments : RankedArguments) :
    headWords true (separated arguments.texts) = spellings arguments.spelled := by
  have hwords := arguments.headWords_separated [] (by simp)
  rwa [List.append_nil, headWords, List.append_nil] at hwords

/-! ## The parentheses of a type -/

/-- No parenthesis is closed before it is opened. -/
def OpensFirst (cs : List Char) : Prop :=
  ∀ n, (cs.take n).count ')' ≤ (cs.take n).count '('

namespace OpensFirst
variable {cs ds : List Char}

theorem count_le_of_prefix (h : OpensFirst cs) (hfront : ds <+: cs) :
    ds.count ')' ≤ ds.count '(' := by
  rw [List.prefix_iff_eq_take.1 hfront]
  exact h ds.length

theorem of_forall (h : ∀ c ∈ cs, c ≠ ')') : OpensFirst cs := by
  intro n
  rw [List.count_eq_zero.2 fun hmem => h _ (List.mem_of_mem_take hmem) rfl]
  exact Nat.zero_le _

theorem append (h : OpensFirst cs) (h' : OpensFirst ds) : OpensFirst (cs ++ ds) := by
  intro n
  rw [List.take_append, List.count_append, List.count_append]
  exact Nat.add_le_add (h n) (h' _)

theorem enclosed (h : OpensFirst cs) : OpensFirst ('(' :: (cs ++ [')'])) := by
  intro n
  cases n with
  | zero => exact Nat.le_refl 0
  | succ n =>
    have hinside := h n
    have hlast := ((List.take_sublist (n - cs.length) [')']).count_le ')')
    rw [List.take_succ_cons, List.take_append, List.count_cons_of_ne (by decide),
      List.count_cons_self, List.count_append, List.count_append]
    rw [List.count_singleton_self] at hlast
    omega

theorem excess_append (h : OpensFirst cs) (h' : Excess ds) : Excess (cs ++ ds) := by
  have hle := h.count_le_of_prefix (List.prefix_refl cs)
  unfold Excess at h' ⊢
  rw [List.count_append, List.count_append]
  omega

theorem excess_cons (h : OpensFirst cs) (hfront : ds <+: cs) : Excess ('(' :: ds) := by
  have hle := h.count_le_of_prefix hfront
  rw [Excess, List.count_cons_of_ne (by decide), List.count_cons_self]
  exact Nat.lt_succ_of_le hle

theorem separated {texts : List (List Char)} (h : ∀ cs ∈ texts, OpensFirst cs) :
    OpensFirst (separated texts) := by
  induction texts with
  | nil => exact of_forall (List.forall_mem_nil _)
  | cons cs texts ih =>
    obtain ⟨hcs, htexts⟩ := List.forall_mem_cons.1 h
    by_cases hempty : texts = []
    · rw [hempty, Reference.separated, List.intercalate_singleton]
      exact hcs
    · rw [separated_cons_of_ne_nil hempty, List.append_cons, List.append_cons]
      exact ((hcs.append (of_forall (by simp))).append (of_forall (by simp))).append (ih htexts)

end OpensFirst

theorem QualifiedName.opensFirst (q : QualifiedName) : OpensFirst q.chars :=
  OpensFirst.of_forall fun _ hc => ne_of_isNamePart (q.isNamePart_of_mem hc) (by decide)

theorem opensFirst_elementChars {cs : List Char} (h : OpensFirst cs) (label : Option Identifier) :
    OpensFirst (elementChars cs label) := by
  cases label with
  | none => exact h
  | some label =>
    have hlabel : ∀ c ∈ label.chars, c ≠ ')' := fun c hc =>
      ne_of_isNamePart (isNamePart_of_isWord (label.isWord_of_mem hc)) (by decide)
    exact h.append (.of_forall (List.forall_mem_cons.2 ⟨by decide, hlabel⟩))

mutual

theorem RankedType.opensFirst : ∀ t : RankedType, OpensFirst t.chars
  | .name q => q.opensFirst
  | .generic base arguments => by
    have harguments := OpensFirst.separated arguments.opensFirst
    rw [RankedType.chars, List.append_cons]
    exact (base.opensFirst.append (.of_forall (by simp))).append
      (harguments.append (.of_forall (by simp)))
  | .nullable type => type.opensFirst.append (.of_forall (by simp))
  | .array type commas => by
    have hrank : ')' ∉ rankChars commas := by simp [rankChars]
    exact type.opensFirst.append (.of_forall fun c hc heq => hrank (heq ▸ hc))
  | .tuple type label more =>
    .enclosed (.separated (List.forall_mem_cons.2
      ⟨opensFirst_elementChars type.opensFirst label, more.opensFirst⟩))

theorem RankedArguments.opensFirst : ∀ arguments : RankedArguments,
    ∀ cs ∈ arguments.texts, OpensFirst cs
  | .last type => List.forall_mem_singleton.2 type.opensFirst
  | .cons type more => List.forall_mem_cons.2 ⟨type.opensFirst, more.opensFirst⟩

theorem RankedElements.opensFirst : ∀ elements : RankedElements,
    ∀ cs ∈ elements.texts, OpensFirst cs
  | .last type label => List.forall_mem_singleton.2 (opensFirst_elementChars type.opensFirst label)
  | .cons type label more =>
    List.forall_mem_cons.2 ⟨opensFirst_elementChars type.opensFirst label, more.opensFirst⟩

end

theorem RankedElements.opensFirst_separated (type : RankedType) (label : Option Identifier)
    (more : RankedElements) :
    OpensFirst (separated (elementChars type.chars label :: more.texts)) :=
  .separated (List.forall_mem_cons.2
    ⟨opensFirst_elementChars type.opensFirst label, more.opensFirst⟩)

end RefAtlas.Reference
