import Mathlib.Data.List.Nodup
import RefAtlas.Source.SourceUnit

/-! # The first of each key

What `firstOfEach` keeps of a list, and what that means for units.

* `mem_firstOfEach`: a member is kept if it is the first one found under its key.
* `map_firstOfEach`: the keys that are kept, in the order in which they first occur.
* `firstOfEach_append_cons`: a later member under a key changes nothing.
* `distinctUnits_of_nodup`: units with distinct ids are all kept.
-/

namespace RefAtlas.Source
set_option autoImplicit false

section FirstOfEach
variable {β : Type} {key : β → String}

theorem firstOfEach_cons_of_mem {seen : List String} {x : β} {rest : List β}
    (h : key x ∈ seen) : firstOfEach key seen (x :: rest) = firstOfEach key seen rest := by
  rw [firstOfEach, if_pos (List.contains_iff_mem.2 h)]

theorem firstOfEach_cons_of_not_mem {seen : List String} {x : β} {rest : List β}
    (h : key x ∉ seen) :
    firstOfEach key seen (x :: rest) = x :: firstOfEach key (key x :: seen) rest := by
  rw [firstOfEach, if_neg fun hc => h (List.contains_iff_mem.1 hc)]

theorem mem_firstOfEach {seen : List String} {l : List β} {x : β} :
    x ∈ firstOfEach key seen l ↔
      key x ∉ seen ∧ l.find? (fun y => key y == key x) = some x := by
  induction l generalizing seen with
  | nil => simp [firstOfEach]
  | cons y rest ih =>
    by_cases hy : key y ∈ seen
    · rw [firstOfEach_cons_of_mem hy, ih]
      refine and_congr_right fun hx => ?_
      have hne : key y ≠ key x := fun heq => hx (heq ▸ hy)
      rw [List.find?_cons_of_neg (by simpa using hne)]
    · rw [firstOfEach_cons_of_not_mem hy, List.mem_cons, ih, List.mem_cons]
      by_cases heq : key y = key x
      · rw [List.find?_cons_of_pos (by simpa using heq)]
        constructor
        · rintro (rfl | ⟨hx, -⟩)
          · exact ⟨hy, rfl⟩
          · exact absurd (.inl heq.symm) hx
        · rintro ⟨-, hxy⟩
          exact .inl (Option.some.inj hxy).symm
      · rw [List.find?_cons_of_neg (by simpa using heq)]
        constructor
        · rintro (rfl | ⟨hx, hf⟩)
          · exact absurd rfl heq
          · exact ⟨fun hmem => hx (.inr hmem), hf⟩
        · rintro ⟨hx, hf⟩
          exact .inr ⟨fun hmem => hmem.elim (fun h => heq h.symm) hx, hf⟩

theorem map_firstOfEach (seen : List String) (l : List β) :
    (firstOfEach key seen l).map key =
      ((l.map key).filter fun k => !seen.contains k).eraseDups := by
  induction l generalizing seen with
  | nil => rfl
  | cons y rest ih =>
    by_cases hy : key y ∈ seen
    · rw [firstOfEach_cons_of_mem hy, ih, List.map_cons,
        List.filter_cons_of_neg (by simpa using hy)]
    · rw [firstOfEach_cons_of_not_mem hy, List.map_cons, ih, List.map_cons,
        List.filter_cons_of_pos (by simpa using hy), List.eraseDups_cons, List.filter_filter]
      congr 2
      refine List.filter_congr fun k _ => ?_
      rw [List.contains_cons, Bool.not_or]

theorem nodup_map_firstOfEach (seen : List String) (l : List β) :
    ((firstOfEach key seen l).map key).Nodup := by
  induction l generalizing seen with
  | nil => exact List.nodup_nil
  | cons y rest ih =>
    by_cases hy : key y ∈ seen
    · rw [firstOfEach_cons_of_mem hy]
      exact ih seen
    · rw [firstOfEach_cons_of_not_mem hy, List.map_cons]
      refine List.nodup_cons.2 ⟨fun hmem => ?_, ih _⟩
      obtain ⟨x, hx, hxy⟩ := List.mem_map.1 hmem
      exact (mem_firstOfEach.1 hx).1 (hxy ▸ List.mem_cons_self)

theorem firstOfEach_of_nodup {seen : List String} {l : List β} (h : (l.map key).Nodup)
    (hseen : ∀ x ∈ l, key x ∉ seen) : firstOfEach key seen l = l := by
  induction l generalizing seen with
  | nil => rfl
  | cons y rest ih =>
    obtain ⟨hy, hrest⟩ := List.nodup_cons.1 h
    rw [firstOfEach_cons_of_not_mem (hseen y List.mem_cons_self)]
    refine congrArg (y :: ·) (ih hrest fun x hx hmem => ?_)
    rcases List.mem_cons.1 hmem with heq | hmem
    · exact hy (heq ▸ List.mem_map_of_mem hx)
    · exact hseen x (List.mem_cons_of_mem _ hx) hmem

/-- A member whose key occurs before it might as well not be there. -/
theorem firstOfEach_append_cons {seen : List String} {before after : List β} {x : β}
    (h : key x ∈ seen ∨ key x ∈ before.map key) :
    firstOfEach key seen (before ++ x :: after) = firstOfEach key seen (before ++ after) := by
  induction before generalizing seen with
  | nil =>
    have hx : key x ∈ seen := h.resolve_right List.not_mem_nil
    exact firstOfEach_cons_of_mem hx
  | cons y before ih =>
    rw [List.map_cons, List.mem_cons] at h
    rw [List.cons_append, List.cons_append]
    by_cases hy : key y ∈ seen
    · rw [firstOfEach_cons_of_mem hy, firstOfEach_cons_of_mem hy]
      refine ih ?_
      rcases h with h | h | h
      · exact .inl h
      · exact .inl (h ▸ hy)
      · exact .inr h
    · rw [firstOfEach_cons_of_not_mem hy, firstOfEach_cons_of_not_mem hy]
      refine congrArg (y :: ·) (ih ?_)
      rw [List.mem_cons]
      rcases h with h | h | h
      · exact .inl (.inr h)
      · exact .inl (.inl h)
      · exact .inr h

end FirstOfEach

/-! ## Units -/

variable {units : List SourceUnit}

theorem mem_distinctUnits {u : SourceUnit} :
    u ∈ distinctUnits units ↔ units.find? (fun v => v.id == u.id) = some u := by
  rw [distinctUnits, mem_firstOfEach]
  exact and_iff_right List.not_mem_nil

theorem ids_distinctUnits (units : List SourceUnit) :
    (distinctUnits units).map SourceUnit.id = (units.map SourceUnit.id).eraseDups := by
  rw [distinctUnits, map_firstOfEach]
  exact congrArg List.eraseDups (List.filter_eq_self.2 fun _ _ => rfl)

theorem nodup_ids_distinctUnits (units : List SourceUnit) :
    ((distinctUnits units).map SourceUnit.id).Nodup := nodup_map_firstOfEach [] units

theorem distinctUnits_of_nodup (h : (units.map SourceUnit.id).Nodup) :
    distinctUnits units = units := firstOfEach_of_nodup h fun _ _ => List.not_mem_nil

theorem mem_ids_distinctUnits {id : String} :
    id ∈ (distinctUnits units).map SourceUnit.id ↔ id ∈ units.map SourceUnit.id := by
  rw [ids_distinctUnits, List.mem_eraseDups]

end RefAtlas.Source
