/-! # Sets of names

A `NameSet` lists names in increasing order, each once, so that two sets with the same members are
equal.

* `NameSet.insert`, `NameSet.union`, `NameSet.ofList`: building; `NameSet.contains`: asking.
* `mem_insert`, `mem_union`, `mem_ofList`: the members after each operation.
-/

namespace RefAtlas.Reference
set_option autoImplicit false

def insertName (name : String) : List String → List String
  | [] => [name]
  | n :: rest =>
    if name < n then name :: n :: rest
    else if name = n then n :: rest
    else n :: insertName name rest

theorem mem_insertName {name other : String} {l : List String} :
    other ∈ insertName name l ↔ other = name ∨ other ∈ l := by
  induction l with
  | nil => simp [insertName]
  | cons n rest ih =>
    rw [insertName]
    split
    · simp
    · split
      · rename_i heq
        simp [heq]
      · simp only [List.mem_cons, ih]
        grind

theorem pairwise_insertName (name : String) {l : List String} (h : l.Pairwise (· < ·)) :
    (insertName name l).Pairwise (· < ·) := by
  induction l with
  | nil => simp [insertName]
  | cons n rest ih =>
    have hn := List.pairwise_cons.1 h
    rw [insertName]
    split
    · rename_i hlt
      refine List.pairwise_cons.2 ⟨fun m hm => ?_, h⟩
      rcases List.mem_cons.1 hm with hm | hm
      · exact hm ▸ hlt
      · exact String.lt_trans hlt (hn.1 m hm)
    · split
      · exact h
      · refine List.pairwise_cons.2 ⟨fun m hm => ?_, ih hn.2⟩
        rcases mem_insertName.1 hm with hm | hm
        · subst hm
          grind
        · exact hn.1 m hm

structure NameSet where
  names : List String
  sorted : names.Pairwise (· < ·)

namespace NameSet

def empty : NameSet := ⟨[], List.Pairwise.nil⟩

instance : Inhabited NameSet := ⟨empty⟩

instance : Membership String NameSet := ⟨fun s name => name ∈ s.names⟩

def contains (s : NameSet) (name : String) : Bool := s.names.contains name

def insert (s : NameSet) (name : String) : NameSet :=
  ⟨insertName name s.names, pairwise_insertName name s.sorted⟩

def insertAll (s : NameSet) (names : List String) : NameSet := names.foldl insert s

def ofList (names : List String) : NameSet := empty.insertAll names

def union (s t : NameSet) : NameSet := s.insertAll t.names

def size (s : NameSet) : Nat := s.names.length

def isEmpty (s : NameSet) : Bool := s.names.isEmpty

/-! ## Members -/

theorem mem_iff_mem_names {s : NameSet} {name : String} : name ∈ s ↔ name ∈ s.names := Iff.rfl

theorem mem_insert {s : NameSet} {name other : String} :
    other ∈ s.insert name ↔ other = name ∨ other ∈ s := mem_insertName

theorem mem_insertAll {s : NameSet} {names : List String} {other : String} :
    other ∈ s.insertAll names ↔ other ∈ s ∨ other ∈ names := by
  induction names generalizing s with
  | nil => simp [insertAll]
  | cons n rest ih =>
    have h := ih (s := s.insert n)
    simp only [insertAll, List.foldl_cons] at h ⊢
    rw [h, mem_insert, List.mem_cons]
    grind

theorem mem_ofList {names : List String} {other : String} :
    other ∈ ofList names ↔ other ∈ names := by
  have h : ¬ other ∈ empty := List.not_mem_nil
  simp [ofList, mem_insertAll, h]

theorem mem_union {s t : NameSet} {other : String} :
    other ∈ s.union t ↔ other ∈ s ∨ other ∈ t := mem_insertAll

end NameSet

end RefAtlas.Reference
