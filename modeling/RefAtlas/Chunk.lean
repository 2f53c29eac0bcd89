/-! # Cutting a list into pieces

`chunks k l` cuts a list into pieces of `k` items; only the last piece may be shorter. Joined
together, the pieces are the list again (`flatten_chunks`), and none is longer than `k`
(`length_le_of_mem_chunks`).
-/

namespace RefAtlas
set_option autoImplicit false

variable {β : Type}

/-- The consecutive pieces of `k` items of a list; none if `k` is zero. -/
def chunks (k : Nat) (l : List β) : List (List β) :=
  if _h : k = 0 ∨ l = [] then [] else l.take k :: chunks k (l.drop k)
termination_by l.length
decreasing_by
  have : l.length ≠ 0 := fun h0 => _h (.inr (List.length_eq_zero_iff.1 h0))
  rw [List.length_drop]
  omega

theorem chunks_nil (k : Nat) : chunks k ([] : List β) = [] := by
  rw [chunks]
  simp

theorem flatten_chunks {k : Nat} (hk : k ≠ 0) (l : List β) : (chunks k l).flatten = l := by
  fun_induction chunks k l with
  | case1 l h =>
    rcases h with h | h
    · exact absurd h hk
    · simp [h]
  | case2 l h ih => rw [List.flatten_cons, ih, List.take_append_drop]

theorem length_le_of_mem_chunks {k : Nat} {l piece : List β} (h : piece ∈ chunks k l) :
    piece.length ≤ k := by
  fun_induction chunks k l with
  | case1 l hnil => cases h
  | case2 l hnil ih =>
    rcases List.mem_cons.1 h with hfirst | hrest
    · rw [hfirst]
      exact List.length_take_le k l
    · exact ih hrest

end RefAtlas
