import Mathlib.Data.List.TakeWhile
import RefAtlas.Pattern.Search

/-! # Which pieces fit a pattern

* `Pattern.Fits`: a piece of a text fits a pattern, said without any search. What stands in front of
  the piece and behind it counts as well, and so does what is remembered on the way.
* `Cursor.Passes`: the place reached behind a piece.
* `Pattern.exec_eq_some`: the search ends behind a piece that fits.
* `Pattern.exec_eq_none`: where the search ends nowhere, every piece that fits has been offered.
-/

namespace RefAtlas
set_option autoImplicit false

/-- The character in front of what follows a piece. -/
def lastOr (before : Option Char) (piece : List Char) : Option Char := piece.getLast?.or before

theorem lastOr_nil (before : Option Char) : lastOr before [] = before := rfl

theorem lastOr_singleton (before : Option Char) (c : Char) : lastOr before [c] = some c := rfl

theorem lastOr_append (before : Option Char) (first second : List Char) :
    lastOr before (first ++ second) = lastOr (lastOr before first) second := by
  rw [lastOr, lastOr, lastOr, List.getLast?_append, Option.or_assoc]

theorem lastOr_cons (before : Option Char) (c : Char) (rest : List Char) :
    lastOr before (c :: rest) = lastOr (some c) rest :=
  lastOr_append before [c] rest

/-! ## Pieces that fit -/

namespace Pattern

/-- Repetitions of pieces of one kind, none of them empty. -/
inductive Repeats (fits : Option Char → List Char → List Char → List (Nat × List Char) → Prop) :
    Option Char → List Char → List Char → List (Nat × List Char) → Prop where
  | none {before : Option Char} {rest : List Char} : Repeats fits before [] rest []
  | more {before : Option Char} {first second rest : List Char}
      {pieces pieces' : List (Nat × List Char)} (hne : first ≠ [])
      (hfirst : fits before first (second ++ rest) pieces)
      (hsecond : Repeats fits (lastOr before first) second rest pieces') :
      Repeats fits before (first ++ second) rest (pieces' ++ pieces)

/-- Whether a piece fits a pattern between the character before it and the text behind it. The
pieces that it leaves to remember are listed with the latest one in front. -/
def Fits : Pattern → Option Char → List Char → List Char → List (Nat × List Char) → Prop
  | .empty, _, piece, _, pieces => piece = [] ∧ pieces = []
  | .one class_, _, piece, _, pieces => (∃ c, class_ c = true ∧ piece = [c]) ∧ pieces = []
  | .literal cs, _, piece, _, pieces => piece = cs ∧ pieces = []
  | .run class_, _, piece, rest, pieces =>
    (∀ c ∈ piece, class_ c = true) ∧ (∀ c ∈ rest.head?, class_ c = false) ∧ pieces = []
  | .shortest class_, _, piece, _, pieces => (∀ c ∈ piece, class_ c = true) ∧ pieces = []
  | .andThen p q, before, piece, rest, pieces =>
    ∃ first second pieces₁ pieces₂, piece = first ++ second ∧ pieces = pieces₂ ++ pieces₁ ∧
      p.Fits before first (second ++ rest) pieces₁ ∧
      q.Fits (lastOr before first) second rest pieces₂
  | .orElse p q, before, piece, rest, pieces =>
    p.Fits before piece rest pieces ∨ q.Fits before piece rest pieces
  | .star p, before, piece, rest, pieces => Repeats p.Fits before piece rest pieces
  | .capture slot p, before, piece, rest, pieces =>
    ∃ inner, pieces = (slot, piece) :: inner ∧ p.Fits before piece rest inner
  | .wordEdge, before, piece, rest, pieces =>
    piece = [] ∧ pieces = [] ∧ (before.any Text.isWord != rest.head?.any Text.isWord) = true
  | .lineStart, before, piece, _, pieces =>
    piece = [] ∧ pieces = [] ∧ before.all (· == '\n') = true

end Pattern

/-! ## Places reached -/

namespace Cursor

/-- What has been remembered on the way to a place. -/
def pieces (c : Cursor) : List (Nat × List Char) :=
  c.remembered.map fun r => (r.slot, r.source.take r.length)

theorem piece?_eq (c : Cursor) (slot : Nat) :
    c.piece? slot = (c.pieces.find? (·.1 == slot)).map Prod.snd := by
  rw [piece?, pieces, List.find?_map, Option.map_map]
  rfl

/-- A place reached from another one behind a piece of text. -/
structure Passes (c : Cursor) (piece rest : List Char) (pieces : List (Nat × List Char))
    (c' : Cursor) : Prop where
  text : c.rest = piece ++ rest
  before : c'.before = lastOr c.before piece
  offset : c'.offset = c.offset + piece.length
  rest : c'.rest = rest
  pieces : c'.pieces = pieces ++ c.pieces

section Passes
variable {c c' c'' : Cursor} {piece first second rest : List Char}
  {pieces pieces' : List (Nat × List Char)}

theorem Passes.refl (c : Cursor) : c.Passes [] c.rest [] c :=
  ⟨rfl, rfl, rfl, rfl, rfl⟩

theorem Passes.trans (h : c.Passes first (second ++ rest) pieces c')
    (h' : c'.Passes second rest pieces' c'') :
    c.Passes (first ++ second) rest (pieces' ++ pieces) c'' where
  text := by rw [h.text, List.append_assoc]
  before := by rw [h'.before, h.before, lastOr_append]
  offset := by rw [h'.offset, h.offset, List.length_append, Nat.add_assoc]
  rest := h'.rest
  pieces := by rw [h'.pieces, h.pieces, List.append_assoc]

theorem passes_step (before : Option Char) (offset : Nat) (x : Char) (rest : List Char)
    (remembered : List Remembered) :
    Passes ⟨before, offset, x :: rest, remembered⟩ [x] rest []
      ⟨some x, offset + 1, rest, remembered⟩ :=
  ⟨rfl, rfl, rfl, rfl, rfl⟩

theorem Passes.remember (h : c.Passes piece rest pieces c') (slot : Nat) :
    c.Passes piece rest ((slot, piece) :: pieces) (Cursor.remember slot c c') where
  text := h.text
  before := h.before
  offset := h.offset
  rest := h.rest
  pieces := by
    have hlength : c'.offset - c.offset = piece.length := by
      rw [h.offset]
      omega
    have hpieces := h.pieces
    rw [Cursor.pieces] at hpieces ⊢
    rw [Cursor.remember, List.map_cons, hpieces, hlength, h.text, List.take_left]
    rfl

end Passes

/-! ## Single steps -/

section Steps
variable {c c' : Cursor} {piece rest : List Char}

theorem passes_of_stepIf? {class_ : Char → Bool} (h : c.stepIf? class_ = some c') :
    ∃ x, class_ x = true ∧ c.Passes [x] c'.rest [] c' := by
  obtain ⟨before, offset, cs, remembered⟩ := c
  cases cs with
  | nil => cases h
  | cons x cs =>
    by_cases hx : class_ x = true
    · simp only [stepIf?, hx, if_true, Option.some.injEq] at h
      subst h
      exact ⟨x, hx, passes_step before offset x cs remembered⟩
    · simp [stepIf?, hx] at h

theorem stepIf?_eq_some {class_ : Char → Bool} {x : Char} (hx : class_ x = true)
    (hc : c.rest = x :: rest) : ∃ c', c.stepIf? class_ = some c' ∧ c.Passes [x] rest [] c' := by
  obtain ⟨before, offset, cs, remembered⟩ := c
  subst hc
  exact ⟨_, by simp [stepIf?, hx], passes_step before offset x rest remembered⟩

theorem passes_of_stepOver? {cs : List Char} (h : stepOver? cs c = some c') :
    c.Passes cs c'.rest [] c' := by
  induction cs generalizing c with
  | nil =>
    obtain rfl := Option.some.inj h
    exact Passes.refl c
  | cons x cs ih =>
    rw [stepOver?] at h
    split at h
    · rename_i c₁ hstep
      obtain ⟨y, hy, hpasses⟩ := passes_of_stepIf? hstep
      obtain rfl := eq_of_beq hy
      have hrest := ih h
      rw [hrest.text] at hpasses
      exact hpasses.trans hrest
    · cases h

theorem stepOver?_eq_some {cs : List Char} (hc : c.rest = cs ++ rest) :
    ∃ c', stepOver? cs c = some c' ∧ c.Passes cs rest [] c' := by
  induction cs generalizing c with
  | nil => exact ⟨c, rfl, ⟨hc, rfl, rfl, hc, rfl⟩⟩
  | cons x cs ih =>
    obtain ⟨c₁, hstep, hpasses⟩ := @stepIf?_eq_some c (cs ++ rest) (· == x) x (beq_self_eq_true x) hc
    obtain ⟨c', hover, hrest⟩ := ih hpasses.rest
    refine ⟨c', ?_, hpasses.trans hrest⟩
    rw [stepOver?, hstep]
    exact hover

end Steps

end Cursor

/-! ## Runs -/

theorem before_placeBehindRun (class_ : Char → Bool) (remembered : List Remembered)
    (before : Option Char) (offset : Nat) (cs : List Char) :
    (placeBehindRun class_ remembered before offset cs).before =
      lastOr before (cs.takeWhile class_) := by
  induction cs generalizing before offset with
  | nil => rfl
  | cons x rest ih =>
    by_cases h : class_ x = true
    · rw [placeBehindRun, if_pos h, ih, List.takeWhile_cons_of_pos h, lastOr_cons]
    · rw [placeBehindRun, if_neg h, List.takeWhile_cons_of_neg h]
      rfl

theorem passes_placeBehindRun (class_ : Char → Bool) (c : Cursor) :
    c.Passes (c.rest.takeWhile class_) (c.rest.dropWhile class_) []
      (placeBehindRun class_ c.remembered c.before c.offset c.rest) where
  text := List.takeWhile_append_dropWhile.symm
  before := before_placeBehindRun class_ c.remembered c.before c.offset c.rest
  offset := offset_placeBehindRun class_ c.remembered c.before c.offset c.rest
  rest := rest_placeBehindRun class_ c.remembered c.before c.offset c.rest
  pieces := by rw [Cursor.pieces, remembered_placeBehindRun]; rfl

theorem takeWhile_dropWhile_of_run {class_ : Char → Bool} {piece rest : List Char}
    (hpiece : ∀ c ∈ piece, class_ c = true) (hrest : ∀ c ∈ rest.head?, class_ c = false) :
    (piece ++ rest).takeWhile class_ = piece ∧ (piece ++ rest).dropWhile class_ = rest := by
  have htake : rest.takeWhile class_ = [] := by
    cases rest with
    | nil => rfl
    | cons c rest => exact List.takeWhile_cons_of_neg (by rw [hrest c rfl]; exact Bool.false_ne_true)
  have hdrop : rest.dropWhile class_ = rest := by
    cases rest with
    | nil => rfl
    | cons c rest => exact List.dropWhile_cons_of_neg (by rw [hrest c rfl]; exact Bool.false_ne_true)
  constructor
  · rw [List.takeWhile_append_of_pos hpiece, htake, List.append_nil]
  · rw [List.dropWhile_append_of_pos hpiece, hdrop]

theorem head?_dropWhile_of_class (class_ : Char → Bool) (cs : List Char) :
    ∀ c ∈ (cs.dropWhile class_).head?, class_ c = false := by
  intro c hc
  have hne : cs.dropWhile class_ ≠ [] := by
    intro hnil
    rw [hnil] at hc
    cases hc
  have hhead : (cs.dropWhile class_).head hne = c :=
    Option.some.inj ((List.head?_eq_some_head hne).symm.trans hc)
  have hnot := List.head_dropWhile_not class_ hne
  rw [hhead] at hnot
  simpa using hnot

section Offers
variable {β : Type} {class_ : Char → Bool} {remembered : List Remembered}
  {accept : Cursor → Option β}

theorem offerWithin_eq_some {found : β} {before : Option Char} {offset : Nat} {cs : List Char}
    (h : offerWithin class_ remembered accept before offset cs = some found) :
    ∃ piece rest c', Cursor.Passes ⟨before, offset, cs, remembered⟩ piece rest [] c' ∧
      (∀ c ∈ piece, class_ c = true) ∧ accept c' = some found := by
  induction cs generalizing before offset with
  | nil => exact ⟨[], [], _, Cursor.Passes.refl _, List.forall_mem_nil _, h⟩
  | cons x cs ih =>
    rw [offerWithin] at h
    split at h
    · rename_i found' haccept
      exact ⟨[], x :: cs, _, Cursor.Passes.refl _, List.forall_mem_nil _, haccept.trans h⟩
    · split at h
      · rename_i hx
        obtain ⟨piece, rest, c', hpasses, hpiece, haccept⟩ := ih h
        have hstep := Cursor.passes_step before offset x cs remembered
        have htext : cs = piece ++ rest := hpasses.text
        rw [htext] at hstep hpasses ⊢
        exact ⟨x :: piece, rest, c', hstep.trans hpasses, List.forall_mem_cons.2 ⟨hx, hpiece⟩,
          haccept⟩
      · cases h

theorem offerWithin_eq_none {before : Option Char} {offset : Nat} {piece rest : List Char}
    (h : offerWithin class_ remembered accept before offset (piece ++ rest) = none)
    (hpiece : ∀ c ∈ piece, class_ c = true) :
    ∃ c', Cursor.Passes ⟨before, offset, piece ++ rest, remembered⟩ piece rest [] c' ∧
      accept c' = none := by
  induction piece generalizing before offset with
  | nil =>
    refine ⟨_, Cursor.Passes.refl _, ?_⟩
    cases rest with
    | nil => exact h
    | cons x rest =>
      rw [List.nil_append, offerWithin] at h
      split at h
      · cases h
      · rename_i haccept
        exact haccept
  | cons x piece ih =>
    obtain ⟨hx, hpiece⟩ := List.forall_mem_cons.1 hpiece
    rw [List.cons_append, offerWithin] at h
    split at h
    · cases h
    · rw [if_pos hx] at h
      obtain ⟨c', hpasses, haccept⟩ := ih h hpiece
      exact ⟨c', (Cursor.passes_step before offset x (piece ++ rest) remembered).trans hpasses,
        haccept⟩

end Offers

/-! ## The search -/

namespace Pattern
variable {β : Type} {limit : Nat}

section Repeated
variable {step : Cursor → (Cursor → Option β) → Option β}
  {fits : Option Char → List Char → List Char → List (Nat × List Char) → Prop}
  {accept : Cursor → Option β}

theorem repeated_eq_some
    (hstep : ∀ {c accept found}, step c accept = some found → ∃ piece rest pieces c',
      c.Passes piece rest pieces c' ∧ fits c.before piece rest pieces ∧ accept c' = some found)
    {n : Nat} {c : Cursor} {found : β} (h : repeated step accept n c = some found) :
    ∃ piece rest pieces c', c.Passes piece rest pieces c' ∧
      Repeats fits c.before piece rest pieces ∧ accept c' = some found := by
  induction n generalizing c with
  | zero => exact ⟨[], c.rest, [], c, Cursor.Passes.refl c, .none, h⟩
  | succ n ih =>
    rw [repeated] at h
    split at h
    · rename_i found' hfound
      obtain rfl := Option.some.inj h
      obtain ⟨first, rest₁, pieces₁, c₁, hpasses₁, hfits₁, h₁⟩ := hstep hfound
      split at h₁
      · cases h₁
      · rename_i hmoved
        have hne : first ≠ [] := by
          rintro rfl
          exact hmoved (beq_iff_eq.2 hpasses₁.offset)
        obtain ⟨second, rest, pieces₂, c₂, hpasses₂, hrepeats, haccept⟩ := ih h₁
        have hrest : rest₁ = second ++ rest := hpasses₁.rest.symm.trans hpasses₂.text
        subst hrest
        rw [hpasses₁.before] at hrepeats
        exact ⟨_, rest, _, c₂, hpasses₁.trans hpasses₂, .more hne hfits₁ hrepeats, haccept⟩
    · exact ⟨[], c.rest, [], c, Cursor.Passes.refl c, .none, h⟩

theorem repeated_eq_none
    (hstep : ∀ {c accept}, step c accept = none → c.rest.length ≤ limit →
      ∀ {piece rest pieces}, fits c.before piece rest pieces → c.rest = piece ++ rest →
        ∃ c', c.Passes piece rest pieces c' ∧ accept c' = none)
    {n : Nat} {c : Cursor} (h : repeated step accept n c = none) (hn : c.rest.length ≤ n)
    (hlimit : c.rest.length ≤ limit) {piece rest : List Char} {pieces : List (Nat × List Char)}
    (hrepeats : Repeats fits c.before piece rest pieces) (htext : c.rest = piece ++ rest) :
    ∃ c', c.Passes piece rest pieces c' ∧ accept c' = none := by
  induction n generalizing c piece pieces with
  | zero =>
    cases hrepeats with
    | none => exact ⟨c, ⟨htext, rfl, rfl, htext, rfl⟩, h⟩
    | more hne _ _ =>
      rw [htext, List.append_assoc, List.length_append] at hn
      exact absurd (List.length_pos_iff.2 hne) (by omega)
  | succ n ih =>
    rw [repeated] at h
    split at h
    · cases h
    · rename_i hnone
      cases hrepeats with
      | none => exact ⟨c, ⟨htext, rfl, rfl, htext, rfl⟩, h⟩
      | @more _ first second _ pieces₁ pieces₂ hne hfirst hsecond =>
        rw [List.append_assoc] at htext
        obtain ⟨c₁, hpasses₁, h₁⟩ := hstep hnone hlimit hfirst htext
        have hpos : 0 < first.length := List.length_pos_iff.2 hne
        have hlength : c.rest.length = first.length + c₁.rest.length := by
          rw [htext, hpasses₁.rest, List.length_append]
        have hmoved : ¬ (c₁.offset == c.offset) = true := by
          rw [hpasses₁.offset, beq_iff_eq]
          omega
        rw [if_neg hmoved] at h₁
        rw [← hpasses₁.before] at hsecond
        obtain ⟨c₂, hpasses₂, haccept⟩ := ih h₁ (by omega) (by omega) hsecond hpasses₁.rest
        exact ⟨c₂, hpasses₁.trans hpasses₂, haccept⟩

end Repeated

/-- What is found lies behind a piece that fits. -/
theorem exec_eq_some {p : Pattern} {c : Cursor} {accept : Cursor → Option β} {found : β}
    (h : p.exec limit c accept = some found) :
    ∃ piece rest pieces c', c.Passes piece rest pieces c' ∧
      p.Fits c.before piece rest pieces ∧ accept c' = some found := by
  induction p generalizing c accept found with
  | empty => exact ⟨[], c.rest, [], c, Cursor.Passes.refl c, ⟨rfl, rfl⟩, h⟩
  | one class_ =>
    rw [exec] at h
    split at h
    · rename_i next hstep
      obtain ⟨x, hx, hpasses⟩ := Cursor.passes_of_stepIf? hstep
      exact ⟨[x], next.rest, [], next, hpasses, ⟨⟨x, hx, rfl⟩, rfl⟩, h⟩
    · cases h
  | literal cs =>
    rw [exec] at h
    split at h
    · rename_i next hstep
      exact ⟨cs, next.rest, [], next, Cursor.passes_of_stepOver? hstep, ⟨rfl, rfl⟩, h⟩
    · cases h
  | run class_ =>
    exact ⟨_, _, [], _, passes_placeBehindRun class_ c,
      ⟨fun x hx => List.mem_takeWhile_imp hx, head?_dropWhile_of_class class_ c.rest, rfl⟩, h⟩
  | shortest class_ =>
    obtain ⟨piece, rest, c', hpasses, hpiece, haccept⟩ := offerWithin_eq_some h
    exact ⟨piece, rest, [], c', hpasses, ⟨hpiece, rfl⟩, haccept⟩
  | andThen p q ihp ihq =>
    obtain ⟨first, rest₁, pieces₁, c₁, hpasses₁, hfits₁, h₁⟩ := ihp h
    obtain ⟨second, rest, pieces₂, c₂, hpasses₂, hfits₂, h₂⟩ := ihq h₁
    have hrest : rest₁ = second ++ rest := hpasses₁.rest.symm.trans hpasses₂.text
    subst hrest
    rw [hpasses₁.before] at hfits₂
    exact ⟨_, rest, _, c₂, hpasses₁.trans hpasses₂,
      ⟨first, second, pieces₁, pieces₂, rfl, rfl, hfits₁, hfits₂⟩, h₂⟩
  | orElse p q ihp ihq =>
    rw [exec] at h
    split at h
    · rename_i found' hfound
      obtain rfl := Option.some.inj h
      obtain ⟨piece, rest, pieces, c', hpasses, hfits, haccept⟩ := ihp hfound
      exact ⟨piece, rest, pieces, c', hpasses, .inl hfits, haccept⟩
    · obtain ⟨piece, rest, pieces, c', hpasses, hfits, haccept⟩ := ihq h
      exact ⟨piece, rest, pieces, c', hpasses, .inr hfits, haccept⟩
  | star p ih => exact repeated_eq_some ih h
  | capture slot p ih =>
    obtain ⟨piece, rest, pieces, c', hpasses, hfits, haccept⟩ := ih h
    exact ⟨piece, rest, _, _, hpasses.remember slot, ⟨pieces, rfl, hfits⟩, haccept⟩
  | wordEdge =>
    rw [exec] at h
    split at h
    · rename_i hedge
      exact ⟨[], c.rest, [], c, Cursor.Passes.refl c, ⟨rfl, rfl, hedge⟩, h⟩
    · cases h
  | lineStart =>
    rw [exec] at h
    split at h
    · rename_i hline
      exact ⟨[], c.rest, [], c, Cursor.Passes.refl c, ⟨rfl, rfl, hline⟩, h⟩
    · cases h

/-- Where nothing is found, every piece that fits has been offered and refused. -/
theorem exec_eq_none {p : Pattern} {c : Cursor} {accept : Cursor → Option β}
    (h : p.exec limit c accept = none) (hlimit : c.rest.length ≤ limit)
    {piece rest : List Char} {pieces : List (Nat × List Char)}
    (hfits : p.Fits c.before piece rest pieces) (htext : c.rest = piece ++ rest) :
    ∃ c', c.Passes piece rest pieces c' ∧ accept c' = none := by
  induction p generalizing c accept piece rest pieces with
  | empty =>
    obtain ⟨rfl, rfl⟩ := hfits
    exact ⟨c, ⟨htext, rfl, rfl, htext, rfl⟩, h⟩
  | one class_ =>
    obtain ⟨⟨x, hx, rfl⟩, rfl⟩ := hfits
    obtain ⟨c', hstep, hpasses⟩ := Cursor.stepIf?_eq_some hx htext
    rw [exec, hstep] at h
    exact ⟨c', hpasses, h⟩
  | literal cs =>
    obtain ⟨rfl, rfl⟩ := hfits
    obtain ⟨c', hstep, hpasses⟩ := Cursor.stepOver?_eq_some htext
    rw [exec, hstep] at h
    exact ⟨c', hpasses, h⟩
  | run class_ =>
    obtain ⟨hpiece, hrest, rfl⟩ := hfits
    have hpasses := passes_placeBehindRun class_ c
    obtain ⟨htake, hdrop⟩ := takeWhile_dropWhile_of_run hpiece hrest
    rw [← htext] at htake hdrop
    rw [htake, hdrop] at hpasses
    exact ⟨_, hpasses, h⟩
  | shortest class_ =>
    obtain ⟨hpiece, rfl⟩ := hfits
    obtain ⟨before, offset, cs, remembered⟩ := c
    subst htext
    exact offerWithin_eq_none h hpiece
  | andThen p q ihp ihq =>
    obtain ⟨first, second, pieces₁, pieces₂, rfl, rfl, hfits₁, hfits₂⟩ := hfits
    rw [List.append_assoc] at htext
    obtain ⟨c₁, hpasses₁, h₁⟩ := ihp h hlimit hfits₁ htext
    rw [← hpasses₁.before] at hfits₂
    have hlength : c₁.rest.length ≤ limit := by
      rw [htext, List.length_append] at hlimit
      rw [hpasses₁.rest]
      omega
    obtain ⟨c₂, hpasses₂, haccept⟩ := ihq h₁ hlength hfits₂ hpasses₁.rest
    exact ⟨c₂, hpasses₁.trans hpasses₂, haccept⟩
  | orElse p q ihp ihq =>
    rw [exec] at h
    split at h
    · cases h
    · rename_i hnone
      rcases hfits with hfits | hfits
      · exact ihp hnone hlimit hfits htext
      · exact ihq h hlimit hfits htext
  | star p ih => exact repeated_eq_none (fun h hl _ _ _ => ih h hl) h hlimit hlimit hfits htext
  | capture slot p ih =>
    obtain ⟨inner, rfl, hfits⟩ := hfits
    obtain ⟨c', hpasses, haccept⟩ := ih h hlimit hfits htext
    exact ⟨_, hpasses.remember slot, haccept⟩
  | wordEdge =>
    obtain ⟨rfl, rfl, hedge⟩ := hfits
    have hat : c.atWordEdge = true := by
      rw [Cursor.atWordEdge, htext]
      exact hedge
    rw [exec, if_pos hat] at h
    exact ⟨c, ⟨htext, rfl, rfl, htext, rfl⟩, h⟩
  | lineStart =>
    obtain ⟨rfl, rfl, hline⟩ := hfits
    have hat : c.atLineStart = true := hline
    rw [exec, if_pos hat] at h
    exact ⟨c, ⟨htext, rfl, rfl, htext, rfl⟩, h⟩

end Pattern

end RefAtlas
