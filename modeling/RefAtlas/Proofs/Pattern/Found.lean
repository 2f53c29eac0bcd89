import RefAtlas.Proofs.Pattern.Fits

/-! # What is found in a text

* `Pattern.Occurs`: a piece at some place of a text fits.
* `Pattern.occurs_of_mem_findAll`: everything that is found occurs.
* `Pattern.exists_mem_findAll`: an occurrence is found, unless one that is found begins before its
  start and ends behind it.
* `Pattern.findAll_eq_nil_iff`: nothing is found exactly if nothing occurs.
-/

namespace RefAtlas.Pattern
set_option autoImplicit false

/-- A piece fits a pattern in a text that goes on behind a character; `front` stands before it. -/
structure Occurs (p : Pattern) (before : Option Char) (cs front piece rest : List Char)
    (pieces : List (Nat × List Char)) : Prop where
  text : cs = front ++ (piece ++ rest)
  fits : p.Fits (lastOr before front) piece rest pieces

section Search
variable {p : Pattern} {limit : Nat} {before : Option Char} {cs front piece rest : List Char}
  {pieces : List (Nat × List Char)}

theorem Occurs.cons {x : Char} (h : p.Occurs (some x) cs front piece rest pieces)
    (before : Option Char) : p.Occurs before (x :: cs) (x :: front) piece rest pieces where
  text := congrArg (x :: ·) h.text
  fits := by
    rw [lastOr_cons]
    exact h.fits

theorem Occurs.tail {x : Char} (h : p.Occurs before (x :: cs) (x :: front) piece rest pieces) :
    p.Occurs (some x) cs front piece rest pieces where
  text := (List.cons.inj h.text).2
  fits := by
    rw [← lastOr_cons before]
    exact h.fits

theorem Occurs.exists_front_eq {x : Char} (h : p.Occurs before (x :: cs) front piece rest pieces)
    (hfront : front ≠ []) : ∃ front', front = x :: front' := by
  obtain ⟨y, front', rfl⟩ := List.exists_cons_of_ne_nil hfront
  exact ⟨front', by rw [(List.cons.inj h.text).1]⟩

theorem occurs_of_matchAt? {offset : Nat} {last : Cursor}
    (h : p.matchAt? limit ⟨before, offset, cs, []⟩ = some last) :
    ∃ piece rest, p.Occurs before cs [] piece rest last.pieces ∧
      last.offset = offset + piece.length := by
  obtain ⟨piece, rest, pieces, c', hpasses, hfits, haccept⟩ := exec_eq_some h
  obtain rfl := Option.some.inj haccept
  have hpieces : c'.pieces = pieces := hpasses.pieces.trans (List.append_nil pieces)
  exact ⟨piece, rest, ⟨hpasses.text, hpieces ▸ hfits⟩, hpasses.offset⟩

theorem not_occurs_of_matchAt? {offset : Nat} (hlimit : cs.length ≤ limit)
    (h : p.matchAt? limit ⟨before, offset, cs, []⟩ = none) :
    ¬ p.Occurs before cs [] piece rest pieces := by
  intro hoccurs
  obtain ⟨c', -, haccept⟩ := exec_eq_none h hlimit hoccurs.fits hoccurs.text
  cases haccept

theorem occurs_of_mem_findFrom {offset resume : Nat} {place : Cursor}
    (h : place ∈ p.findFrom limit before offset resume cs) :
    ∃ front piece rest, p.Occurs before cs front piece rest place.pieces := by
  induction cs generalizing before offset resume with
  | nil =>
    rw [findFrom] at h
    split at h
    · cases h
    · obtain ⟨piece, rest, hoccurs, -⟩ := occurs_of_matchAt? (Option.mem_toList.1 h)
      exact ⟨[], piece, rest, hoccurs⟩
  | cons x cs ih =>
    have later {resume : Nat} (h : place ∈ p.findFrom limit (some x) (offset + 1) resume cs) :
        ∃ front piece rest, p.Occurs before (x :: cs) front piece rest place.pieces := by
      obtain ⟨front, piece, rest, hoccurs⟩ := ih h
      exact ⟨x :: front, piece, rest, hoccurs.cons before⟩
    rw [findFrom] at h
    split at h
    · exact later h
    · split at h
      · rename_i last hmatch
        rcases List.mem_cons.1 h with rfl | h
        · obtain ⟨piece, rest, hoccurs, -⟩ := occurs_of_matchAt? hmatch
          exact ⟨[], piece, rest, hoccurs⟩
        · exact later h
      · exact later h

/-- One of the places belongs to an occurrence behind `n` characters, or to one that begins before
and reaches further. -/
def Reaches (p : Pattern) (before : Option Char) (cs : List Char) (n : Nat)
    (places : List Cursor) : Prop :=
  ∃ place ∈ places, ∃ front piece rest, p.Occurs before cs front piece rest place.pieces ∧
    front.length ≤ n ∧ (front.length = n ∨ n < front.length + piece.length)

theorem Reaches.cons {x : Char} {n : Nat} {places : List Cursor}
    (h : p.Reaches (some x) cs n places) (before : Option Char) :
    p.Reaches before (x :: cs) (n + 1) places := by
  obtain ⟨place, hplace, front, piece, rest, hoccurs, hle, hover⟩ := h
  refine ⟨place, hplace, x :: front, piece, rest, hoccurs.cons before, ?_, ?_⟩
  · rw [List.length_cons]
    omega
  · rw [List.length_cons]
    omega

theorem Reaches.mono {n : Nat} {places places' : List Cursor} (h : p.Reaches before cs n places)
    (hsubset : places ⊆ places') : p.Reaches before cs n places' := by
  obtain ⟨place, hplace, hreaches⟩ := h
  exact ⟨place, hsubset hplace, hreaches⟩

theorem reaches_of_matchAt? {offset n : Nat} {last : Cursor} {places : List Cursor}
    (hmatch : p.matchAt? limit ⟨before, offset, cs, []⟩ = some last) (hmem : last ∈ places)
    (hn : n = 0 ∨ offset + n < last.offset) : p.Reaches before cs n places := by
  obtain ⟨piece, rest, hoccurs, hlast⟩ := occurs_of_matchAt? hmatch
  refine ⟨last, hmem, [], piece, rest, hoccurs, Nat.zero_le n, ?_⟩
  rw [List.length_nil]
  omega

/-- An occurrence that has not been passed is found, or one that is found reaches over its start. -/
theorem reaches_findFrom {offset resume : Nat} (hlimit : cs.length ≤ limit)
    (h : p.Occurs before cs front piece rest pieces) (hresume : resume ≤ offset + front.length) :
    p.Reaches before cs front.length (p.findFrom limit before offset resume cs) := by
  induction cs generalizing before offset resume front with
  | nil =>
    have hfront : front = [] := (List.append_eq_nil_iff.1 h.text.symm).1
    subst hfront
    have hnow : ¬ offset < resume := by simpa using hresume
    rw [findFrom, if_neg hnow]
    cases hmatch : p.matchAt? limit ⟨before, offset, [], []⟩ with
    | none => exact absurd h (not_occurs_of_matchAt? hlimit hmatch)
    | some last => exact reaches_of_matchAt? hmatch (List.mem_singleton_self last) (.inl rfl)
  | cons x cs ih =>
    -- An occurrence further on is looked for further on.
    have later (hfront : front ≠ []) {resume : Nat} (hresume : resume ≤ offset + front.length) :
        p.Reaches before (x :: cs) front.length
          (p.findFrom limit (some x) (offset + 1) resume cs) := by
      obtain ⟨tail, rfl⟩ := h.exists_front_eq hfront
      rw [List.length_cons] at hresume
      have hresume' : resume ≤ offset + 1 + tail.length := by omega
      exact (ih (Nat.le_of_succ_le hlimit) h.tail hresume').cons before
    rw [findFrom]
    by_cases hpassed : offset < resume
    · rw [if_pos hpassed]
      refine later ?_ hresume
      rintro rfl
      exact absurd hresume (by simpa using hpassed)
    · rw [if_neg hpassed]
      cases hmatch : p.matchAt? limit ⟨before, offset, x :: cs, []⟩ with
      | none =>
        refine later ?_ hresume
        rintro rfl
        exact not_occurs_of_matchAt? hlimit hmatch h
      | some last =>
        by_cases hover : front.length = 0 ∨ offset + front.length < last.offset
        · exact reaches_of_matchAt? hmatch List.mem_cons_self hover
        · obtain ⟨hfront, hbehind⟩ := not_or.1 hover
          have hne : front ≠ [] := fun hnil => hfront (hnil ▸ rfl)
          exact (later hne (Nat.le_of_not_lt hbehind)).mono (List.subset_cons_self last _)

end Search

section Text
variable {p : Pattern} {cs front piece rest : List Char} {pieces : List (Nat × List Char)}

theorem occurs_of_mem_findAll {place : Cursor} (h : place ∈ p.findAll cs) :
    ∃ front piece rest, p.Occurs none cs front piece rest place.pieces :=
  occurs_of_mem_findFrom h

theorem exists_mem_findAll (h : p.Occurs none cs front piece rest pieces) :
    ∃ place ∈ p.findAll cs, ∃ front' piece' rest',
      p.Occurs none cs front' piece' rest' place.pieces ∧ front'.length ≤ front.length ∧
      (front'.length = front.length ∨ front.length < front'.length + piece'.length) :=
  reaches_findFrom (Nat.le_refl _) h (Nat.zero_le _)

theorem findAll_eq_nil_iff :
    p.findAll cs = [] ↔ ∀ front piece rest pieces, ¬ p.Occurs none cs front piece rest pieces := by
  constructor
  · intro hnil front piece rest pieces hoccurs
    obtain ⟨place, hplace, -⟩ := exists_mem_findAll hoccurs
    rw [hnil] at hplace
    cases hplace
  · intro hno
    refine List.eq_nil_iff_forall_not_mem.2 fun place hplace => ?_
    obtain ⟨front, piece, rest, hoccurs⟩ := occurs_of_mem_findAll hplace
    exact hno _ _ _ _ hoccurs

end Text

end RefAtlas.Pattern
