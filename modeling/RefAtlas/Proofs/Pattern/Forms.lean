import RefAtlas.Proofs.Pattern.Fits
import RefAtlas.Reference.Rule

/-! # What fits the patterns that rules are written from

* `Pattern.fits_one_run_iff`: a character and a run; so names and white space that may not be
  missing (`fits_identifier_iff`, `fits_dottedName_iff`, `fits_blanks1_iff`).
* `Pattern.fits_blanks_andThen` and its companions: one part of a sequence, and what follows;
  `Pattern.fits_andThen`, `Pattern.fits_capture_of_fits`: sequences put together.
* `Pattern.fits_words_iff`: one of some words; `Pattern.fits_wordThenBlanks_iff`: with white space
  behind it.
* `Pattern.Opens`: a class of characters with which everything that fits begins.
* `Pattern.Needs`: a character that is in everything that fits; without it, nothing optional is
  there (`Pattern.eq_nil_of_optional`, `Pattern.eq_nil_of_star`).
-/

namespace RefAtlas.Pattern
open RefAtlas.Text
set_option autoImplicit false

variable {before : Option Char} {piece rest : List Char} {pieces : List (Nat × List Char)}

theorem fits_one_run_iff {first class_ : Char → Bool} :
    (Pattern.andThen (.one first) (.run class_)).Fits before piece rest pieces ↔
      (∃ c cs, piece = c :: cs ∧ first c = true ∧ ∀ d ∈ cs, class_ d = true) ∧
      (∀ d ∈ rest.head?, class_ d = false) ∧ pieces = [] := by
  constructor
  · rintro ⟨_, cs, _, _, rfl, rfl, ⟨⟨c, hc, rfl⟩, rfl⟩, hcs, hrest, rfl⟩
    exact ⟨⟨c, cs, rfl, hc, hcs⟩, hrest, rfl⟩
  · rintro ⟨⟨c, cs, rfl, hc, hcs⟩, hrest, rfl⟩
    exact ⟨[c], cs, [], [], rfl, rfl, ⟨⟨c, hc, rfl⟩, rfl⟩, hcs, hrest, rfl⟩

theorem fits_run1_iff {class_ : Char → Bool} : (run1 class_).Fits before piece rest pieces ↔
    piece ≠ [] ∧ (∀ c ∈ piece, class_ c = true) ∧ (∀ c ∈ rest.head?, class_ c = false) ∧
      pieces = [] := by
  rw [run1, fits_one_run_iff]
  constructor
  · rintro ⟨⟨c, cs, rfl, hc, hcs⟩, hrest⟩
    exact ⟨List.cons_ne_nil c cs, List.forall_mem_cons.2 ⟨hc, hcs⟩, hrest⟩
  · rintro ⟨hne, hpiece, hrest⟩
    obtain ⟨c, cs, rfl⟩ := List.exists_cons_of_ne_nil hne
    exact ⟨⟨c, cs, rfl, List.forall_mem_cons.1 hpiece⟩, hrest⟩

theorem fits_blanks1_iff : blanks1.Fits before piece rest pieces ↔
    piece ≠ [] ∧ (∀ c ∈ piece, isBlank c = true) ∧ (∀ c ∈ rest.head?, isBlank c = false) ∧
      pieces = [] := fits_run1_iff

/-- A name start, then word characters. -/
def IsName (cs : List Char) : Prop :=
  ∃ c tail, cs = c :: tail ∧ isNameStart c = true ∧ ∀ d ∈ tail, isWord d = true

theorem IsName.isWord_of_mem {cs : List Char} (h : IsName cs) : ∀ c ∈ cs, isWord c = true := by
  obtain ⟨c, tail, rfl, hc, htail⟩ := h
  exact List.forall_mem_cons.2 ⟨isWord_of_isNameStart hc, htail⟩

theorem IsName.ne_nil {cs : List Char} (h : IsName cs) : cs ≠ [] := by
  obtain ⟨c, tail, rfl, -, -⟩ := h
  exact List.cons_ne_nil c tail

theorem fits_identifier_iff : identifier.Fits before piece rest pieces ↔
    IsName piece ∧ (∀ d ∈ rest.head?, isWord d = false) ∧ pieces = [] := fits_one_run_iff

def isDotted (c : Char) : Bool := isWord c || c == '.'

/-- A name start, then word characters and points. -/
def IsDottedName (cs : List Char) : Prop :=
  ∃ c tail, cs = c :: tail ∧ isNameStart c = true ∧ ∀ d ∈ tail, isDotted d = true

theorem fits_dottedName_iff : dottedName.Fits before piece rest pieces ↔
    IsDottedName piece ∧ (∀ d ∈ rest.head?, isDotted d = false) ∧ pieces = [] := fits_one_run_iff

theorem fits_words_iff {ws : List String} : (words ws).Fits before piece rest pieces ↔
    (∃ w ∈ ws, piece = w.toList) ∧ pieces = [] := by
  have hone (w : String) : (text w).Fits before piece rest pieces ↔
      piece = w.toList ∧ pieces = [] := Iff.rfl
  induction ws with
  | nil => simp [words, anyOf, Fits]
  | cons w ws ih =>
    cases ws with
    | nil => simpa [words, anyOf] using hone w
    | cons w' ws =>
      have hsplit : (words (w :: w' :: ws)).Fits before piece rest pieces ↔
          (text w).Fits before piece rest pieces ∨
            (words (w' :: ws)).Fits before piece rest pieces := Iff.rfl
      refine (hsplit.trans (or_congr (hone w) ih)).trans ?_
      constructor
      · rintro (⟨h, hpieces⟩ | ⟨⟨v, hv, h⟩, hpieces⟩)
        · exact ⟨⟨w, List.mem_cons_self, h⟩, hpieces⟩
        · exact ⟨⟨v, List.mem_cons_of_mem w hv, h⟩, hpieces⟩
      · rintro ⟨⟨v, hv, h⟩, hpieces⟩
        rcases List.mem_cons.1 hv with rfl | hv
        · exact .inl ⟨h, hpieces⟩
        · exact .inr ⟨⟨v, hv, h⟩, hpieces⟩

theorem fits_wordThenBlanks_iff {ws : List String} :
    (Reference.wordThenBlanks ws).Fits before piece rest pieces ↔
      (∃ w ∈ ws, ∃ gap, piece = w.toList ++ gap ∧ gap ≠ [] ∧ ∀ c ∈ gap, isBlank c = true) ∧
      (∀ c ∈ rest.head?, isBlank c = false) ∧ pieces = [] := by
  constructor
  · rintro ⟨word, gap, _, _, rfl, rfl, hword, hgap⟩
    obtain ⟨⟨w, hw, rfl⟩, rfl⟩ := fits_words_iff.1 hword
    obtain ⟨hne, hblank, hrest, rfl⟩ := fits_blanks1_iff.1 hgap
    exact ⟨⟨w, hw, gap, rfl, hne, hblank⟩, hrest, rfl⟩
  · rintro ⟨⟨w, hw, gap, rfl, hne, hblank⟩, hrest, rfl⟩
    exact ⟨w.toList, gap, [], [], rfl, rfl, fits_words_iff.2 ⟨⟨w, hw, rfl⟩, rfl⟩,
      fits_blanks1_iff.2 ⟨hne, hblank, hrest, rfl⟩⟩

/-! ## Parts in sequence -/

section Sequence
variable {p : Pattern}

theorem fits_wordEdge_andThen (h : (Pattern.wordEdge.andThen p).Fits before piece rest pieces) :
    (before.any isWord != (piece ++ rest).head?.any isWord) = true ∧
      p.Fits before piece rest pieces := by
  obtain ⟨_, second, _, _, rfl, rfl, ⟨rfl, rfl, hedge⟩, hsecond⟩ := h
  rw [List.append_nil]
  exact ⟨hedge, hsecond⟩

theorem fits_text_andThen {s : String} (h : ((text s).andThen p).Fits before piece rest pieces) :
    ∃ tail, piece = s.toList ++ tail ∧ p.Fits (lastOr before s.toList) tail rest pieces := by
  obtain ⟨_, tail, _, _, rfl, rfl, ⟨rfl, rfl⟩, htail⟩ := h
  rw [List.append_nil]
  exact ⟨tail, rfl, htail⟩

theorem fits_blanks_andThen (h : (blanks.andThen p).Fits before piece rest pieces) :
    ∃ gap tail, piece = gap ++ tail ∧ (∀ c ∈ gap, isBlank c = true) ∧
      (∀ c ∈ (tail ++ rest).head?, isBlank c = false) ∧
      p.Fits (lastOr before gap) tail rest pieces := by
  obtain ⟨gap, tail, _, _, rfl, rfl, ⟨hgap, hstops, rfl⟩, htail⟩ := h
  rw [List.append_nil]
  exact ⟨gap, tail, rfl, hgap, hstops, htail⟩

theorem fits_blanks1_andThen (h : (blanks1.andThen p).Fits before piece rest pieces) :
    ∃ gap tail, piece = gap ++ tail ∧ gap ≠ [] ∧ (∀ c ∈ gap, isBlank c = true) ∧
      (∀ c ∈ (tail ++ rest).head?, isBlank c = false) ∧
      p.Fits (lastOr before gap) tail rest pieces := by
  obtain ⟨gap, tail, _, _, rfl, rfl, hgap, htail⟩ := h
  obtain ⟨hne, hblank, hstops, rfl⟩ := fits_blanks1_iff.1 hgap
  rw [List.append_nil]
  exact ⟨gap, tail, rfl, hne, hblank, hstops, htail⟩

theorem fits_identifier_andThen (h : (identifier.andThen p).Fits before piece rest pieces) :
    ∃ name tail, piece = name ++ tail ∧ IsName name ∧
      (∀ c ∈ (tail ++ rest).head?, isWord c = false) ∧
      p.Fits (lastOr before name) tail rest pieces := by
  obtain ⟨name, tail, _, _, rfl, rfl, hidentifier, htail⟩ := h
  obtain ⟨hname, hstops, rfl⟩ := fits_identifier_iff.1 hidentifier
  rw [List.append_nil]
  exact ⟨name, tail, rfl, hname, hstops, htail⟩

theorem fits_capture_andThen {slot : Nat} {q : Pattern}
    (h : ((Pattern.capture slot q).andThen p).Fits before piece rest pieces) :
    ∃ inner tail innerPieces tailPieces, piece = inner ++ tail ∧
      pieces = tailPieces ++ (slot, inner) :: innerPieces ∧
      q.Fits before inner (tail ++ rest) innerPieces ∧
      p.Fits (lastOr before inner) tail rest tailPieces := by
  obtain ⟨inner, tail, _, tailPieces, rfl, rfl, ⟨innerPieces, rfl, hinner⟩, htail⟩ := h
  exact ⟨inner, tail, innerPieces, tailPieces, rfl, rfl, hinner, htail⟩

theorem fits_andThen {q : Pattern} {first second : List Char}
    (hp : p.Fits before first (second ++ rest) [])
    (hq : q.Fits (lastOr before first) second rest pieces) :
    (p.andThen q).Fits before (first ++ second) rest pieces :=
  ⟨first, second, [], pieces, rfl, (List.append_nil pieces).symm, hp, hq⟩

theorem fits_capture_of_fits {q : Pattern} {first second : List Char} {slot : Nat}
    (hp : p.Fits before first (second ++ rest) [])
    (hq : q.Fits (lastOr before first) second rest []) :
    ((p.capture slot).andThen q).Fits before (first ++ second) rest [(slot, first)] :=
  ⟨first, second, [(slot, first)], [], rfl, rfl, ⟨[], rfl, hp⟩, hq⟩

theorem fits_blanks_nil (hrest : ∀ c ∈ rest.head?, isBlank c = false) :
    blanks.Fits before [] rest [] := ⟨List.forall_mem_nil _, hrest, rfl⟩

theorem fits_blanks_space (hrest : ∀ c ∈ rest.head?, isBlank c = false) :
    blanks.Fits before [' '] rest [] := ⟨List.forall_mem_singleton.2 rfl, hrest, rfl⟩

theorem fits_blanks1_space (hrest : ∀ c ∈ rest.head?, isBlank c = false) :
    blanks1.Fits before [' '] rest [] :=
  fits_blanks1_iff.2 ⟨List.cons_ne_nil _ _, List.forall_mem_singleton.2 rfl, hrest, rfl⟩

end Sequence

/-! ## First characters -/

/-- Everything that fits begins with a character of a class. -/
def Opens (p : Pattern) (class_ : Char → Bool) : Prop :=
  ∀ before piece rest pieces, p.Fits before piece rest pieces →
    ∃ c tail, piece = c :: tail ∧ class_ c = true

section Opens
variable {p q : Pattern} {class_ : Char → Bool}

theorem Opens.andThen (h : p.Opens class_) (q : Pattern) : (p.andThen q).Opens class_ := by
  rintro _ _ _ _ ⟨first, second, _, _, rfl, rfl, hfirst, -⟩
  obtain ⟨c, tail, rfl, hc⟩ := h _ _ _ _ hfirst
  exact ⟨c, tail ++ second, rfl, hc⟩

theorem Opens.capture (h : p.Opens class_) (slot : Nat) : (p.capture slot).Opens class_ := by
  rintro _ _ _ _ ⟨_, -, hfits⟩
  exact h _ _ _ _ hfits

theorem Opens.optional (h : p.Opens class_) (h' : q.Opens class_) :
    ((Pattern.optional p).andThen q).Opens class_ := by
  rintro _ _ _ _ ⟨first, second, _, _, rfl, rfl, hfirst | ⟨rfl, -⟩, hsecond⟩
  · obtain ⟨c, tail, rfl, hc⟩ := h _ _ _ _ hfirst
    exact ⟨c, tail ++ second, rfl, hc⟩
  · exact h' _ _ _ _ hsecond

theorem Opens.star (h : p.Opens class_) (h' : q.Opens class_) :
    ((Pattern.star p).andThen q).Opens class_ := by
  rintro _ _ _ _ ⟨first, second, _, _, rfl, rfl, hfirst, hsecond⟩
  cases hfirst with
  | none => exact h' _ _ _ _ hsecond
  | @more _ one others _ _ _ _ hone _ =>
    obtain ⟨c, tail, rfl, hc⟩ := h _ _ _ _ hone
    exact ⟨c, tail ++ others ++ second, rfl, hc⟩

theorem opens_one (class_ : Char → Bool) : (one class_).Opens class_ := by
  rintro _ _ _ _ ⟨⟨c, hc, rfl⟩, -⟩
  exact ⟨c, [], rfl, hc⟩

theorem opens_identifier : identifier.Opens isNameStart := (opens_one isNameStart).andThen _

theorem opens_dottedName : dottedName.Opens isNameStart := (opens_one isNameStart).andThen _

theorem opens_words {ws : List String} (h : (ws.all fun w => w.toList.head?.any class_) = true) :
    (words ws).Opens class_ := by
  intro _ _ _ _ hfits
  obtain ⟨⟨w, hw, rfl⟩, -⟩ := fits_words_iff.1 hfits
  have hhead := List.all_eq_true.1 h w hw
  cases hchars : w.toList with
  | nil => simp [hchars] at hhead
  | cons c tail =>
    rw [hchars] at hhead
    exact ⟨c, tail, rfl, hhead⟩

theorem opens_wordThenBlanks {ws : List String}
    (h : (ws.all fun w => w.toList.head?.any class_) = true) :
    (Reference.wordThenBlanks ws).Opens class_ := (opens_words h).andThen _

end Opens

/-! ## Characters that may not be missing -/

/-- Everything that fits has a character in it. -/
def Needs (p : Pattern) (c : Char) : Prop :=
  ∀ before piece rest pieces, p.Fits before piece rest pieces → c ∈ piece

section Needs
variable {p q : Pattern} {c : Char}

theorem Needs.andThen (h : p.Needs c) (q : Pattern) : (p.andThen q).Needs c := by
  rintro _ _ _ _ ⟨first, second, _, _, rfl, rfl, hfirst, -⟩
  exact List.mem_append_left second (h _ _ _ _ hfirst)

theorem Needs.behind (h : q.Needs c) (p : Pattern) : (p.andThen q).Needs c := by
  rintro _ _ _ _ ⟨first, second, _, _, rfl, rfl, -, hsecond⟩
  exact List.mem_append_right first (h _ _ _ _ hsecond)

theorem needs_text {s : String} (h : c ∈ s.toList) : (text s).Needs c := by
  rintro _ _ _ _ ⟨rfl, -⟩
  exact h

theorem eq_nil_of_optional (hp : p.Needs c) (h : (optional p).Fits before piece rest pieces)
    (hc : c ∉ piece) : piece = [] ∧ pieces = [] := by
  rcases h with h | h
  · exact absurd (hp _ _ _ _ h) hc
  · exact h

theorem eq_nil_of_star (hp : p.Needs c) (h : (star p).Fits before piece rest pieces)
    (hc : c ∉ piece) : piece = [] ∧ pieces = [] := by
  cases h with
  | none => exact ⟨rfl, rfl⟩
  | more _ hfirst _ => exact absurd (List.mem_append_left _ (hp _ _ _ _ hfirst)) hc

end Needs

end RefAtlas.Pattern
