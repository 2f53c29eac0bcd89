import Mathlib.Algebra.Order.Floor.Div
import RefAtlas.Chunk
import RefAtlas.Layout.Config

/-! # Pieces and their places

A list that is cut into pieces of `k` items has its item number `s` in piece `s / k`, at place
`s % k`. There are as many pieces as the quotient of its length by `k`, rounded up.

* `ceilDiv_eq`: the quotient that the program rounds up.
* `length_chunks`, `getElem?_chunks`: the number of pieces, and the items in them.
* `ArePieces`: the pieces of a list, without reference to how they are cut; `arePieces_iff` says
  that there is one list of them.
-/

namespace RefAtlas
set_option autoImplicit false

theorem Layout.ceilDiv_le_iff {n k c : ℕ} (hk : 0 < k) : Layout.ceilDiv n k ≤ c ↔ n ≤ k * c := by
  have hsplit := Nat.div_add_mod n k
  by_cases hmod : n % k = 0
  · have hvalue : Layout.ceilDiv n k = n / k := by simp [Layout.ceilDiv, hmod]
    rw [hmod, Nat.add_zero] at hsplit
    rw [hvalue, ← Nat.mul_le_mul_left_iff hk, hsplit]
  · have hvalue : Layout.ceilDiv n k = n / k + 1 := by simp [Layout.ceilDiv, hmod]
    rw [hvalue, Nat.succ_le_iff, Nat.div_lt_iff_lt_mul hk, Nat.mul_comm c k]
    refine ⟨Nat.le_of_lt, fun hle => lt_of_le_of_ne hle ?_⟩
    rintro rfl
    exact hmod (Nat.mul_mod_right k c)

theorem Layout.ceilDiv_eq (n : ℕ) {k : ℕ} (hk : 0 < k) : Layout.ceilDiv n k = n ⌈/⌉ k :=
  eq_of_forall_ge_iff fun _ => (Layout.ceilDiv_le_iff hk).trans (ceilDiv_le_iff_le_mul hk).symm

variable {β : Type}

theorem length_chunks_le_iff {k : ℕ} (hk : 0 < k) (l : List β) (c : ℕ) :
    (chunks k l).length ≤ c ↔ l.length ≤ k * c := by
  fun_induction chunks k l generalizing c with
  | case1 l h =>
    rcases h with rfl | rfl
    · exact absurd hk (Nat.lt_irrefl 0)
    · simp
  | case2 l h ih =>
    have hne : 0 < l.length := List.length_pos_iff.2 fun hnil => h (.inr hnil)
    cases c with
    | zero => simpa using fun hnil => h (.inr hnil)
    | succ c =>
      rw [List.length_cons, Nat.add_le_add_iff_right, ih c, List.length_drop, Nat.mul_succ]
      omega

theorem length_chunks {k : ℕ} (hk : 0 < k) (l : List β) : (chunks k l).length = l.length ⌈/⌉ k :=
  eq_of_forall_ge_iff fun c => (length_chunks_le_iff hk l c).trans (ceilDiv_le_iff_le_mul hk).symm

theorem getElem?_chunks {k c : ℕ} (hc : c < k) (l : List β) (r : ℕ) :
    (chunks k l)[r]?.bind (·[c]?) = l[r * k + c]? := by
  fun_induction chunks k l generalizing r with
  | case1 l h =>
    rcases h with rfl | rfl
    · exact absurd hc (Nat.not_lt_zero c)
    · simp
  | case2 l h ih =>
    cases r with
    | zero =>
      rw [List.getElem?_cons_zero, Option.bind_some, List.getElem?_take_of_lt hc, Nat.zero_mul,
        Nat.zero_add]
    | succ r =>
      rw [List.getElem?_cons_succ, ih r, List.getElem?_drop, Nat.succ_mul]
      congr 1
      omega

/-! ## The pieces of a list -/

/-- The consecutive pieces of a list. None is empty, and all have `k` items but the last one, which
may have fewer. -/
structure ArePieces (k : ℕ) (l : List β) (pieces : List (List β)) : Prop where
  flatten : pieces.flatten = l
  full : ∀ piece ∈ pieces.dropLast, piece.length = k
  bounds : ∀ piece ∈ pieces, 0 < piece.length ∧ piece.length ≤ k

section Pieces
variable {k : ℕ} {l piece : List β} {pieces : List (List β)}

theorem arePieces_nil_iff : ArePieces k ([] : List β) pieces ↔ pieces = [] := by
  constructor
  · rintro ⟨hflatten, -, hbounds⟩
    refine List.eq_nil_iff_forall_not_mem.2 fun piece hpiece => ?_
    have hnil : piece = [] := List.flatten_eq_nil_iff.1 hflatten piece hpiece
    have hpos := (hbounds piece hpiece).1
    rw [hnil] at hpos
    exact Nat.lt_irrefl 0 hpos
  · rintro rfl
    exact ⟨rfl, by simp, by simp⟩

/-- The first piece is as long as it can be, and the others are the pieces of what is left. -/
theorem arePieces_cons_iff (hk : 0 < k) (hl : l ≠ []) : ArePieces k l (piece :: pieces) ↔
    piece = l.take k ∧ ArePieces k (l.drop k) pieces := by
  constructor
  · rintro ⟨rfl, hfull, hbounds⟩
    rw [List.flatten_cons]
    by_cases hlast : pieces = []
    · have hle : piece.length ≤ k := (hbounds piece List.mem_cons_self).2
      rw [hlast, List.flatten_nil, List.append_nil, List.take_of_length_le hle,
        List.drop_of_length_le hle]
      exact ⟨rfl, arePieces_nil_iff.2 rfl⟩
    · rw [List.dropLast_cons_of_ne_nil hlast] at hfull
      have hpiece : piece.length = k := hfull piece List.mem_cons_self
      rw [List.take_left' hpiece, List.drop_left' hpiece]
      exact ⟨rfl, rfl, fun p hp => hfull p (List.mem_cons_of_mem _ hp),
        fun p hp => hbounds p (List.mem_cons_of_mem _ hp)⟩
  · rintro ⟨rfl, hrest⟩
    have hlength : (l.take k).length = min k l.length := List.length_take
    refine ⟨?_, fun p hp => ?_, fun p hp => ?_⟩
    · rw [List.flatten_cons, hrest.flatten, List.take_append_drop]
    · by_cases hlast : pieces = []
      · rw [hlast] at hp
        cases hp
      rw [List.dropLast_cons_of_ne_nil hlast] at hp
      rcases List.mem_cons.1 hp with rfl | hp
      · have hmore : l.drop k ≠ [] := fun hnil => hlast (arePieces_nil_iff.1 (hnil ▸ hrest))
        have hlt : ¬l.length ≤ k := fun hle => hmore (List.drop_of_length_le hle)
        omega
      · exact hrest.full p hp
    · rcases List.mem_cons.1 hp with rfl | hp
      · have hpos := List.length_pos_iff.2 hl
        omega
      · exact hrest.bounds p hp

theorem arePieces_iff (hk : 0 < k) : ArePieces k l pieces ↔ pieces = chunks k l := by
  fun_induction chunks k l generalizing pieces with
  | case1 l h =>
    rcases h with rfl | rfl
    · exact absurd hk (Nat.lt_irrefl 0)
    · exact arePieces_nil_iff
  | case2 l h ih =>
    have hl : l ≠ [] := fun hnil => h (.inr hnil)
    cases pieces with
    | nil => exact iff_of_false (fun hpieces => hl hpieces.flatten.symm) (List.cons_ne_nil _ _).symm
    | cons piece pieces => rw [arePieces_cons_iff hk hl, ih, List.cons.injEq]

end Pieces

end RefAtlas
