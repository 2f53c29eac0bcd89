import Mathlib.Algebra.BigOperators.Group.List.Basic
import Mathlib.Algebra.GroupWithZero.Nat

/-! # Texts that stand in a text

* `InOrder`: texts that stand in a text one behind the other, without overlaps.
* `Apart`: the same without regard to which one stands first.
* `Apart.isInfix`, `Apart.sum_le`: each of them is a piece of the text, and together they are not
  longer than it, in whatever way length is measured.
-/

namespace RefAtlas.Text
set_option autoImplicit false

/-- The texts stand in another one in this order, with gaps in front of them and behind. -/
inductive InOrder : List (List Char) → List Char → Prop where
  | nil (cs : List Char) : InOrder [] cs
  | cons (gap text : List Char) {texts : List (List Char)} {cs : List Char}
    (h : InOrder texts cs) : InOrder (text :: texts) (gap ++ (text ++ cs))

namespace InOrder
variable {texts more : List (List Char)} {cs ds : List Char}

theorem singleton (text : List Char) : InOrder [text] text := by
  simpa using InOrder.cons [] text (.nil [])

theorem exists_of_cons {text : List Char} (h : InOrder (text :: texts) cs) :
    ∃ gap rest, cs = gap ++ (text ++ rest) ∧ InOrder texts rest := by
  cases h with
  | cons gap text h => exact ⟨gap, _, rfl, h⟩

theorem behind (h : InOrder texts cs) (front : List Char) : InOrder texts (front ++ cs) := by
  cases h with
  | nil => exact .nil _
  | cons gap text h =>
    rw [← List.append_assoc]
    exact .cons (front ++ gap) text h

theorem append (h : InOrder texts cs) (h' : InOrder more ds) :
    InOrder (texts ++ more) (cs ++ ds) := by
  induction h with
  | nil cs => exact h'.behind cs
  | cons gap text _ ih =>
    rw [List.cons_append, List.append_assoc, List.append_assoc]
    exact .cons gap text ih

theorem of_isInfix (h : InOrder texts cs) (hpiece : cs <:+: ds) : InOrder texts ds := by
  obtain ⟨front, back, rfl⟩ := hpiece
  have hbehind := (h.behind front).append (.nil back)
  rwa [List.append_nil] at hbehind

theorem sublist (h : InOrder texts cs) (hmore : more.Sublist texts) : InOrder more cs := by
  induction h generalizing more with
  | nil cs =>
    rw [List.sublist_nil.1 hmore]
    exact .nil cs
  | cons gap text _ ih =>
    cases hmore with
    | cons _ hmore =>
      rw [← List.append_assoc]
      exact (ih hmore).behind _
    | cons_cons _ hmore => exact .cons gap text (ih hmore)

theorem map {f : List Char → List Char} (h : InOrder texts cs) (hf : ∀ text, f text <:+: text) :
    InOrder (texts.map f) cs := by
  induction h with
  | nil cs => exact .nil cs
  | cons gap text _ ih =>
    have htext := (singleton (f text)).of_isInfix (hf text)
    exact (htext.append ih).behind gap

theorem isInfix (h : InOrder texts cs) {text : List Char} (hmem : text ∈ texts) : text <:+: cs := by
  induction h with
  | nil => cases hmem
  | @cons gap first texts cs _ ih =>
    rcases List.mem_cons.1 hmem with rfl | hmem
    · exact ⟨gap, cs, List.append_assoc gap text cs⟩
    · exact (ih hmem).trans (((List.suffix_append first cs).trans (List.suffix_append gap _)).isInfix)

theorem sum_le {size : List Char → Nat} (hsize : ∀ as bs, size (as ++ bs) = size as + size bs)
    (h : InOrder texts cs) : (texts.map size).sum ≤ size cs := by
  induction h with
  | nil => exact Nat.zero_le _
  | cons gap text _ ih =>
    rw [List.map_cons, List.sum_cons, hsize, hsize]
    omega

end InOrder

theorem inOrder_intercalate (sep : List Char) (pieces : List (List Char)) :
    InOrder pieces (sep.intercalate pieces) := by
  induction pieces with
  | nil => exact .nil _
  | cons piece pieces ih =>
    cases pieces with
    | nil => simpa using InOrder.singleton piece
    | cons next pieces =>
      rw [List.intercalate_cons_cons, List.append_assoc]
      exact (InOrder.singleton piece).append (ih.behind sep)

/-! ## In any order -/

/-- The texts stand in another one without overlaps. -/
def Apart (texts : List (List Char)) (cs : List Char) : Prop :=
  ∃ order : List (List Char), order.Perm texts ∧ InOrder order cs

namespace Apart
variable {texts more : List (List Char)} {cs ds : List Char}

theorem nil (cs : List Char) : Apart [] cs := ⟨[], .refl [], .nil cs⟩

theorem singleton {text : List Char} (h : text <:+: cs) : Apart [text] cs :=
  ⟨[text], .refl _, (InOrder.singleton text).of_isInfix h⟩

theorem of_isInfix (h : Apart texts cs) (hpiece : cs <:+: ds) : Apart texts ds := by
  obtain ⟨order, hperm, horder⟩ := h
  exact ⟨order, hperm, horder.of_isInfix hpiece⟩

theorem perm (h : Apart texts cs) (hperm : texts.Perm more) : Apart more cs := by
  obtain ⟨order, hperm', horder⟩ := h
  exact ⟨order, hperm'.trans hperm, horder⟩

theorem append (h : Apart texts cs) (h' : Apart more ds) : Apart (texts ++ more) (cs ++ ds) := by
  obtain ⟨order, hperm, horder⟩ := h
  obtain ⟨order', hperm', horder'⟩ := h'
  exact ⟨order ++ order', hperm.append hperm', horder.append horder'⟩

theorem flatMap {pieces : List (List Char)} {f : List Char → List (List Char)}
    (hpieces : InOrder pieces cs) (h : ∀ piece ∈ pieces, Apart (f piece) piece) :
    Apart (pieces.flatMap f) cs := by
  induction hpieces with
  | nil cs => exact nil cs
  | @cons gap piece pieces cs _ ih =>
    obtain ⟨hpiece, hpieces⟩ := List.forall_mem_cons.1 h
    rw [List.flatMap_cons]
    exact (hpiece.append (ih hpieces)).of_isInfix (List.suffix_append gap _).isInfix

theorem isInfix (h : Apart texts cs) {text : List Char} (hmem : text ∈ texts) : text <:+: cs := by
  obtain ⟨order, hperm, horder⟩ := h
  exact horder.isInfix (hperm.mem_iff.2 hmem)

theorem sum_le {size : List Char → Nat} (hsize : ∀ as bs, size (as ++ bs) = size as + size bs)
    (h : Apart texts cs) : (texts.map size).sum ≤ size cs := by
  obtain ⟨order, hperm, horder⟩ := h
  rw [← (hperm.map size).sum_eq]
  exact horder.sum_le hsize

end Apart

end RefAtlas.Text
