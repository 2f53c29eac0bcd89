/-! # Entries in the order of their keys

Lists of keys with values, one value a key, the keys increasing.

* `insertEntry`: puts a value under a key; `pairwise_insertEntry`: the keys still increase.
* `find?_insertEntry`: what is found under a key afterwards.
-/

namespace RefAtlas
set_option autoImplicit false

variable {κ β : Type} [LT κ] [DecidableLT κ] [DecidableEq κ]

/-- Puts a value into a list of entries in key order, in place of an equal key's value. -/
def insertEntry (key : κ) (value : β) : List (κ × β) → List (κ × β)
  | [] => [(key, value)]
  | e :: rest =>
    if key < e.1 then (key, value) :: e :: rest
    else if key = e.1 then (key, value) :: rest
    else e :: insertEntry key value rest

theorem mem_insertEntry {key : κ} {value : β} {e : κ × β} {l : List (κ × β)}
    (h : e ∈ insertEntry key value l) : e = (key, value) ∨ e ∈ l := by
  induction l with
  | nil => simpa [insertEntry] using h
  | cons x rest ih =>
    rw [insertEntry] at h
    split at h
    · simpa using h
    · split at h
      · rcases List.mem_cons.1 h with h | h
        · exact .inl h
        · exact .inr (List.mem_cons_of_mem _ h)
      · rcases List.mem_cons.1 h with h | h
        · exact .inr (h ▸ List.mem_cons_self)
        · exact (ih h).imp_right (List.mem_cons_of_mem _)

theorem pairwise_insertEntry [Trans (α := κ) LT.lt LT.lt LT.lt] [Std.Trichotomous (α := κ) LT.lt]
    (key : κ) (value : β) {l : List (κ × β)} (h : l.Pairwise fun a b => a.1 < b.1) :
    (insertEntry key value l).Pairwise fun a b => a.1 < b.1 := by
  induction l with
  | nil => simp [insertEntry]
  | cons x rest ih =>
    have hx := List.pairwise_cons.1 h
    rw [insertEntry]
    split
    · rename_i hlt
      refine List.pairwise_cons.2 ⟨fun e he => ?_, h⟩
      rcases List.mem_cons.1 he with he | he
      · exact he ▸ hlt
      · exact Trans.trans hlt (hx.1 e he)
    · split
      · rename_i heq
        exact List.pairwise_cons.2 ⟨fun e he => by simpa [heq] using hx.1 e he, hx.2⟩
      · rename_i hlt hne
        refine List.pairwise_cons.2 ⟨fun e he => ?_, ih hx.2⟩
        rcases mem_insertEntry he with he | he
        · subst he
          exact Classical.byContradiction fun h => hne (Std.Trichotomous.trichotomous _ _ hlt h)
        · exact hx.1 e he

theorem find?_insertEntry (key other : κ) (value : β) (l : List (κ × β)) :
    ((insertEntry key value l).find? fun e => e.1 == other).map Prod.snd =
      if other = key then some value else (l.find? fun e => e.1 == other).map Prod.snd := by
  have head : ∀ rest : List (κ × β),
      (((key, value) :: rest).find? fun e => e.1 == other).map Prod.snd =
        if other = key then some value else (rest.find? fun e => e.1 == other).map Prod.snd := by
    intro rest
    by_cases h : key = other
    · simp [h]
    · simp [h, Ne.symm h]
  induction l with
  | nil => exact head []
  | cons x rest ih =>
    rw [insertEntry]
    split
    · exact head (x :: rest)
    · split
      · rename_i heq
        rw [head rest]
        by_cases h : other = key
        · simp [h]
        · have hx : x.1 ≠ other := fun hx => h (heq.trans hx).symm
          simp [h, hx]
      · rename_i hlt hne
        by_cases hx : x.1 = other
        · have h : other ≠ key := fun h => hne (h.symm.trans hx.symm)
          simp [hx, h]
        · simpa [hx] using ih

end RefAtlas
