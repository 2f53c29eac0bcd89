import Mathlib.Data.List.Induction
import Mathlib.Data.List.Sort
import Mathlib.Data.String.Basic
import RefAtlas.Dictionary

/-! # What a dictionary holds

A dictionary is known by what it answers: `ext_get?` makes two dictionaries equal that answer alike.

* `mem_entries_iff`: the entries are the answers.
* `get?_ofList`: the last value under a key counts, which is the first one where there is only one
  (`find?_key_reverse`); `get?_ofList_eq_some_iff`: where no key has two values, the answers are the
  list.
* `get?_foldl_insert`: what is found where a list was written over a dictionary.
* `mem_keys_ofList`, `entries_ofList_perm`: what a dictionary made of a list holds.
* `values_insert`: a new value under a key that is there takes the place of the old one.
* `get?_mapEntries`: what is found where every value is changed.
-/

namespace RefAtlas
set_option autoImplicit false

variable {β : Type}

/-! ## Lists in order -/

theorem eq_of_mem_iff_of_pairwise {γ : Type} {lt : γ → γ → Prop}
    (asymm : ∀ a b, lt a b → ¬ lt b a) {l l' : List γ} (h : l.Pairwise lt) (h' : l'.Pairwise lt)
    (hmem : ∀ a, a ∈ l ↔ a ∈ l') : l = l' := by
  have nodup : ∀ {k : List γ}, k.Pairwise lt → k.Nodup := fun hk =>
    hk.imp fun {a b} hab heq => by
      subst heq
      exact asymm a a hab hab
  have hperm : l.Perm l' := (List.perm_ext_iff_of_nodup (nodup h) (nodup h')).2 hmem
  exact List.Perm.eq_of_pairwise (fun a b _ _ hab hba => absurd hba (asymm a b hab)) h h' hperm

/-! ## Entries in order -/

theorem find?_key_eq_some_iff {l : List (String × β)}
    (hl : ∀ key v w, (key, v) ∈ l → (key, w) ∈ l → v = w) {key : String} {value : β} :
    (l.find? fun e => e.1 == key).map Prod.snd = some value ↔ (key, value) ∈ l := by
  constructor
  · intro h
    obtain ⟨e, hf, hv⟩ := Option.map_eq_some_iff.1 h
    have hkey : e.1 = key := by simpa using List.find?_some hf
    exact hkey ▸ hv ▸ List.mem_of_find?_eq_some hf
  · intro h
    cases hf : l.find? fun e => e.1 == key with
    | none =>
      have hno := List.find?_eq_none.1 hf _ h
      simp at hno
    | some e =>
      have hkey : e.1 = key := by simpa using List.find?_some hf
      have hmem : (key, e.2) ∈ l := hkey ▸ List.mem_of_find?_eq_some hf
      rw [Option.map_some, hl key e.2 value hmem h]

theorem find?_key_reverse {l : List (String × β)} {key : String}
    (h : (l.map Prod.fst).count key ≤ 1) :
    (l.reverse.find? fun e => e.1 == key) = l.find? fun e => e.1 == key := by
  have hlength : (l.filter fun e => e.1 == key).length ≤ 1 := by
    rwa [List.count, List.countP_map, List.countP_eq_length_filter] at h
  rw [← List.head?_filter, ← List.head?_filter, List.filter_reverse]
  generalize (l.filter fun e => e.1 == key) = found at hlength ⊢
  match found, hlength with
  | [], _ => rfl
  | [_], _ => rfl

theorem insertEntry_of_mem {key : String} {old : β} (new : β) {l : List (String × β)}
    (hs : l.Pairwise fun a b => a.1 < b.1) (h : (key, old) ∈ l) :
    ∃ before after, l = before ++ (key, old) :: after ∧
      insertEntry key new l = before ++ (key, new) :: after := by
  induction l with
  | nil => cases h
  | cons e rest ih =>
    have hrest := List.pairwise_cons.1 hs
    rcases List.mem_cons.1 h with he | he
    · subst he
      exact ⟨[], rest, rfl, by simp [insertEntry]⟩
    · obtain ⟨before, after, hl, hi⟩ := ih hrest.2 he
      have hlt : e.1 < key := hrest.1 _ he
      refine ⟨e :: before, after, by rw [hl]; rfl, ?_⟩
      rw [insertEntry, if_neg (not_lt_of_gt hlt), if_neg (ne_of_gt hlt), hi]
      rfl

namespace Dictionary

/-! ## Entries and answers -/

theorem nodup_keys (d : Dictionary β) : d.keys.Nodup := by
  have h : d.keys.Pairwise (· < ·) := List.pairwise_map.2 d.sorted
  exact h.imp fun hlt => ne_of_lt hlt

theorem eq_of_mem_entries {d : Dictionary β} {key : String} {v w : β}
    (hv : (key, v) ∈ d.entries) (hw : (key, w) ∈ d.entries) : v = w := by
  have h := List.inj_on_of_nodup_map d.nodup_keys hv hw rfl
  exact (Prod.mk.injEq .. ▸ h).2

theorem mem_entries_iff {d : Dictionary β} {key : String} {value : β} :
    (key, value) ∈ d.entries ↔ d.get? key = some value :=
  (find?_key_eq_some_iff fun _ _ _ hv hw => eq_of_mem_entries hv hw).symm

theorem mem_values_iff {d : Dictionary β} {value : β} :
    value ∈ d.values ↔ ∃ key, d.get? key = some value := by
  simp [values, ← mem_entries_iff]

theorem ext_get? {d d' : Dictionary β} (h : ∀ key, d.get? key = d'.get? key) : d = d' := by
  refine ext_entries (eq_of_mem_iff_of_pairwise ?_ d.sorted d'.sorted fun e => ?_)
  · exact fun a b hab => not_lt_of_gt hab
  · rw [← Prod.eta e, mem_entries_iff, mem_entries_iff, h]

/-! ## Dictionaries of lists -/

theorem ofList_append_singleton (l : List (String × β)) (e : String × β) :
    ofList (l ++ [e]) = (ofList l).insert e.1 e.2 := by
  rw [ofList, List.foldl_append]
  rfl

theorem get?_ofList (l : List (String × β)) (key : String) :
    (ofList l).get? key = (l.reverse.find? fun e => e.1 == key).map Prod.snd := by
  induction l using List.reverseRecOn with
  | nil => rfl
  | append_singleton l e ih =>
    rw [ofList_append_singleton, get?_insert, List.reverse_append, List.reverse_singleton,
      List.singleton_append, List.find?_cons, ih]
    by_cases h : key = e.1
    · simp [h]
    · rw [if_neg h, beq_false_of_ne (Ne.symm h)]

theorem get?_foldl_insert (l : List (String × β)) (d : Dictionary β) (key : String) :
    (l.foldl (fun d e => d.insert e.1 e.2) d).get? key =
      ((ofList l).get? key).or (d.get? key) := by
  induction l using List.reverseRecOn with
  | nil => rfl
  | append_singleton l e ih =>
    rw [List.foldl_append, List.foldl_cons, List.foldl_nil, get?_insert, ih,
      ofList_append_singleton, get?_insert]
    by_cases h : key = e.1
    · rw [if_pos h, if_pos h, Option.some_or]
    · rw [if_neg h, if_neg h]

theorem get?_ofList_eq_some_iff {l : List (String × β)}
    (hl : ∀ key v w, (key, v) ∈ l → (key, w) ∈ l → v = w) {key : String} {value : β} :
    (ofList l).get? key = some value ↔ (key, value) ∈ l := by
  have hr : ∀ key v w, (key, v) ∈ l.reverse → (key, w) ∈ l.reverse → v = w := fun key v w hv hw =>
    hl key v w (List.mem_reverse.1 hv) (List.mem_reverse.1 hw)
  rw [get?_ofList, find?_key_eq_some_iff hr, List.mem_reverse]

/-- The dictionary of a table of answers gives these answers, whatever keys are repeated. -/
theorem get?_ofList_filterMap (answer : String → Option β) (keys : List String) (key : String) :
    (ofList (keys.filterMap fun k => (answer k).map fun v => (k, v))).get? key =
      if key ∈ keys then answer key else none := by
  have hmem : ∀ k v, (k, v) ∈ (keys.filterMap fun k => (answer k).map fun v => (k, v)) ↔
      k ∈ keys ∧ answer k = some v := by
    intro k v
    simp only [List.mem_filterMap, Option.map_eq_some_iff, Prod.mk.injEq]
    constructor
    · rintro ⟨k', hk', v', hv', rfl, rfl⟩
      exact ⟨hk', hv'⟩
    · rintro ⟨hk, hv⟩
      exact ⟨k, hk, v, hv, rfl, rfl⟩
  refine Option.ext fun v => ?_
  rw [get?_ofList_eq_some_iff, hmem]
  · by_cases h : key ∈ keys
    · simp [h]
    · simp [h]
  · intro k v w hv hw
    exact Option.some.inj (((hmem k v).1 hv).2.symm.trans ((hmem k w).1 hw).2)

/-! ## The entries of a list -/

theorem mem_keys_iff {d : Dictionary β} {key : String} :
    key ∈ d.keys ↔ ∃ value, d.get? key = some value := by
  simp [keys, ← mem_entries_iff]

theorem mem_of_mem_entries_ofList {l : List (String × β)} {e : String × β}
    (h : e ∈ (ofList l).entries) : e ∈ l := by
  have hget := mem_entries_iff.1 (show (e.1, e.2) ∈ (ofList l).entries from h)
  rw [get?_ofList] at hget
  obtain ⟨e', hfind, hvalue⟩ := Option.map_eq_some_iff.1 hget
  have hkey : e'.1 = e.1 := by simpa using List.find?_some hfind
  have hmem := List.mem_reverse.1 (List.mem_of_find?_eq_some hfind)
  exact Prod.ext hkey hvalue ▸ hmem

theorem mem_keys_ofList {l : List (String × β)} {key : String} :
    key ∈ (ofList l).keys ↔ key ∈ l.map Prod.fst := by
  constructor
  · intro h
    obtain ⟨e, he, hkey⟩ := List.mem_map.1 h
    exact hkey ▸ List.mem_map_of_mem (mem_of_mem_entries_ofList he)
  · intro h
    obtain ⟨e, he, rfl⟩ := List.mem_map.1 h
    cases hfind : l.reverse.find? fun e' => e'.1 == e.1 with
    | none =>
      have hno := List.find?_eq_none.1 hfind e (List.mem_reverse.2 he)
      simp at hno
    | some e' =>
      refine mem_keys_iff.2 ⟨e'.2, ?_⟩
      rw [get?_ofList, hfind]
      rfl

theorem entries_ofList_perm {l : List (String × β)} (h : (l.map Prod.fst).Nodup) :
    (ofList l).entries.Perm l := by
  have hvalues : ∀ key v w, (key, v) ∈ l → (key, w) ∈ l → v = w := by
    intro key v w hv hw
    have hsame := List.inj_on_of_nodup_map h hv hw rfl
    exact (Prod.mk.inj hsame).2
  have hentries : (ofList l).entries.Nodup := (nodup_keys (ofList l)).of_map
  refine (List.perm_ext_iff_of_nodup hentries h.of_map).2 fun e => ?_
  rw [← Prod.eta e, mem_entries_iff, get?_ofList_eq_some_iff hvalues]

/-! ## Changed values -/

theorem values_insert {d : Dictionary β} {key : String} {old : β} (new : β)
    (h : d.get? key = some old) :
    ∃ before after, d.values = before ++ old :: after ∧
      (d.insert key new).values = before ++ new :: after := by
  obtain ⟨before, after, hd, hi⟩ := insertEntry_of_mem new d.sorted (mem_entries_iff.2 h)
  refine ⟨before.map Prod.snd, after.map Prod.snd, ?_, ?_⟩
  · rw [values, hd]
    simp
  · have hv : (d.insert key new).values = (insertEntry key new d.entries).map Prod.snd := rfl
    rw [hv, hi]
    simp

@[simp] theorem keys_mapEntries {γ : Type} (f : String → β → γ) (d : Dictionary β) :
    (d.mapEntries f).keys = d.keys := by
  simp [keys, mapEntries, Function.comp_def]

theorem get?_mapEntries {γ : Type} (f : String → β → γ) (d : Dictionary β) (key : String) :
    (d.mapEntries f).get? key = (d.get? key).map (f key) := by
  simp only [get?, mapEntries, List.find?_map, Function.comp_def, Option.map_map]
  cases hfind : d.entries.find? fun e => e.1 == key with
  | none => rfl
  | some e =>
    have hkey : e.1 = key := by simpa using List.find?_some hfind
    simp [hkey]

theorem values_mapEntries {γ : Type} (f : β → γ) (d : Dictionary β) :
    (d.mapEntries fun _ value => f value).values = d.values.map f := by
  simp [values, mapEntries, Function.comp_def]

theorem mapEntries_mapEntries {γ δ : Type} (f : String → β → γ) (g : String → γ → δ)
    (d : Dictionary β) :
    (d.mapEntries f).mapEntries g = d.mapEntries fun key value => g key (f key value) :=
  ext_entries (List.map_map ..)

theorem size_eq_length_values (d : Dictionary β) : d.size = d.values.length := by
  rw [size, values, List.length_map]

end Dictionary

end RefAtlas
