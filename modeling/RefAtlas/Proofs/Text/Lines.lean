import Mathlib.Data.List.Nodup
import Mathlib.Data.List.TakeWhile

/-! # The pieces of a text between separators

* `Text.not_mem_of_mem_splitOn`: no piece holds the separator.
* `Text.mem_splitOn_iff`: the pieces are what stands between two separators, or between one and an
  end of the text. So the lines of a text can be told from what stands around them.
* `Text.exists_mem_splitOn_iff`: looking through the pieces, in front of one and behind it.
* `Text.exists_last_piece`, `Text.exists_first_piece`: the piece at an end of a text.
-/

namespace RefAtlas.Text
set_option autoImplicit false

theorem not_mem_of_mem_splitOn {text piece : List Char} {c : Char}
    (h : piece ∈ text.splitOn c) : c ∉ piece := by
  induction text generalizing piece with
  | nil =>
    have hpiece : piece = [] := by simpa using h
    simp [hpiece]
  | cons x text ih =>
    rw [List.splitOn_cons_eq_if_modifyHead] at h
    split at h
    · rcases List.mem_cons.1 h with rfl | h
      · exact List.not_mem_nil
      · exact ih h
    · next hx =>
      obtain ⟨first, rest, hsplit⟩ := List.exists_cons_of_ne_nil (List.splitOn_ne_nil c text)
      rw [hsplit, List.modifyHead_cons] at h
      rcases List.mem_cons.1 h with rfl | h
      · have hfirst : c ∉ first := ih (hsplit ▸ List.mem_cons_self)
        have hne : c ≠ x := fun heq => hx (by simp [heq])
        simp [hfirst, hne]
      · exact ih (hsplit ▸ List.mem_cons_of_mem _ h)

/-- A piece stands in a text, with the separator or an end of the text on both sides. -/
structure Between (c : Char) (text before piece after : List Char) : Prop where
  text : text = before ++ (piece ++ after)
  free : c ∉ piece
  before : ∀ d ∈ before.getLast?, d = c
  after : ∀ d ∈ after.head?, d = c

theorem exists_between_intercalate {c : Char} {pieces : List (List Char)} {piece : List Char}
    (h : piece ∈ pieces) : ∃ before after, [c].intercalate pieces = before ++ (piece ++ after) ∧
      (∀ d ∈ before.getLast?, d = c) ∧ (∀ d ∈ after.head?, d = c) := by
  induction pieces with
  | nil => cases h
  | cons first pieces ih =>
    cases pieces with
    | nil =>
      obtain rfl := List.mem_singleton.1 h
      exact ⟨[], [], by simp, by simp, by simp⟩
    | cons second pieces =>
      rw [List.intercalate_cons_cons]
      rcases List.mem_cons.1 h with rfl | h
      · exact ⟨[], c :: [c].intercalate (second :: pieces), by simp, by simp, by simp⟩
      · obtain ⟨before, after, htext, hbefore, hafter⟩ := ih h
        refine ⟨first ++ c :: before, after, by simp [htext], ?_, hafter⟩
        intro d hd
        rw [List.getLast?_append, List.getLast?_cons, Option.some_or] at hd
        cases hlast : before.getLast? with
        | none =>
          rw [hlast] at hd
          exact (Option.some.inj hd).symm
        | some e =>
          rw [hlast] at hd
          exact Option.some.inj hd ▸ hbefore e (by rw [hlast]; rfl)

theorem mem_splitOn_iff {c : Char} {text piece : List Char} :
    piece ∈ text.splitOn c ↔ ∃ before after, Between c text before piece after := by
  constructor
  · intro h
    obtain ⟨before, after, htext, hbefore, hafter⟩ := exists_between_intercalate (c := c) h
    rw [List.intercalate_splitOn] at htext
    exact ⟨before, after, htext, not_mem_of_mem_splitOn h, hbefore, hafter⟩
  · rintro ⟨before, after, htext, hfree, hbefore, hafter⟩
    have hrest : piece ∈ (piece ++ after).splitOn c := by
      have hself := List.splitOn_eq_singleton hfree
      cases after with
      | nil =>
        rw [List.append_nil, hself]
        exact List.mem_singleton_self piece
      | cons d after =>
        obtain rfl := hafter d rfl
        rw [List.splitOn_append_cons_self, hself]
        exact List.mem_append_left _ (List.mem_singleton_self piece)
    subst htext
    rcases List.eq_nil_or_concat before with rfl | ⟨front, d, rfl⟩
    · exact hrest
    · rw [List.concat_eq_append] at hbefore ⊢
      obtain rfl := hbefore d List.getLast?_concat
      rw [List.append_assoc, List.singleton_append, List.splitOn_append_cons_self]
      exact List.mem_append_right _ hrest

/-- What holds of no empty piece is found around a piece, in it, or nowhere. -/
theorem exists_mem_splitOn_iff {c : Char} {text before piece after : List Char}
    (h : Between c text before piece after) {p : List Char → Prop} (hnil : ¬ p []) :
    (∃ cs ∈ text.splitOn c, p cs) ↔
      (∃ cs ∈ before.splitOn c, p cs) ∨ p piece ∨ ∃ cs ∈ after.splitOn c, p cs := by
  obtain ⟨rfl, hfree, hbefore, hafter⟩ := h
  have hnone : ¬ ∃ cs ∈ ([] : List Char).splitOn c, p cs := by simpa using hnil
  have hrest : (∃ cs ∈ (piece ++ after).splitOn c, p cs) ↔
      p piece ∨ ∃ cs ∈ after.splitOn c, p cs := by
    have hself := List.splitOn_eq_singleton hfree
    cases after with
    | nil =>
      rw [List.append_nil, hself, or_iff_left hnone]
      simp
    | cons d after =>
      obtain rfl := hafter d rfl
      have hback := List.splitOn_append_cons_self (a := d) [] after
      rw [List.nil_append] at hback
      rw [List.splitOn_append_cons_self, hself, hback]
      simp [hnil]
  rcases List.eq_nil_or_concat before with rfl | ⟨front, d, rfl⟩
  · rw [List.nil_append, hrest, or_iff_right hnone]
  · rw [List.concat_eq_append] at hbefore ⊢
    obtain rfl := hbefore d List.getLast?_concat
    rw [List.append_assoc, List.singleton_append, List.splitOn_append_cons_self,
      List.splitOn_append_cons_self]
    simp only [List.mem_append, or_and_right, exists_or, hrest, or_iff_left hnone]

/-! ## The piece at an end -/

theorem exists_last_piece (c : Char) (text : List Char) : ∃ before piece, text = before ++ piece ∧
    c ∉ piece ∧ ∀ d ∈ before.getLast?, d = c := by
  induction text with
  | nil => exact ⟨[], [], rfl, List.not_mem_nil, by simp⟩
  | cons x text ih =>
    obtain ⟨before, piece, rfl, hfree, hbefore⟩ := ih
    by_cases hnone : before = []
    · subst hnone
      by_cases hx : x = c
      · exact ⟨[x], piece, rfl, hfree, by simp [hx]⟩
      · exact ⟨[], x :: piece, rfl, by simp [hfree, Ne.symm hx], by simp⟩
    · refine ⟨x :: before, piece, rfl, hfree, ?_⟩
      rwa [List.getLast?_cons_of_ne_nil hnone]

theorem exists_first_piece (c : Char) (text : List Char) : ∃ piece after, text = piece ++ after ∧
    c ∉ piece ∧ ∀ d ∈ after.head?, d = c := by
  refine ⟨text.takeWhile (· != c), text.dropWhile (· != c),
    List.takeWhile_append_dropWhile.symm, fun hmem => ?_, ?_⟩
  · simpa using List.mem_takeWhile_imp hmem
  · intro d hd
    cases hdrop : text.dropWhile (· != c) with
    | nil => simp [hdrop] at hd
    | cons e after =>
      rw [hdrop] at hd
      have hhead := List.head_dropWhile_not (· != c) (l := text) (by simp [hdrop])
      simp only [hdrop, List.head_cons] at hhead
      rw [← Option.some.inj hd]
      simpa using hhead

end RefAtlas.Text
