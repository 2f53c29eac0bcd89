import RefAtlas.Proofs.Graph.Build
import RefAtlas.Proofs.Reference.Expansion

/-! # Expanded names and the edges they make

An edge is made from the last segment of a name. So of all that the directives of a unit add to its
references only the targets of its aliases can lead to another unit.

* `ReferenceGraph.mem_edges_ofUnits_iff`: the edges of the graph of a list of units.
* `referencesThrough`: the references of a unit when its names are looked up in a table of choice.
* `expansion_adds_alias_edges`: the edges with expanded names against those without.
-/

namespace RefAtlas.Graph
open RefAtlas.Reference RefAtlas.Source
set_option autoImplicit false

/-! ## Edges of a list of units -/

section Edges
variable {references references' : SourceUnit → NameSet} {workers : Nat} {units : List SourceUnit}

theorem ReferenceGraph.mem_edges_ofUnits_iff (hworkers : 0 < workers) {s t : String} :
    Edge.mk s t ∈ (ofUnits references workers units).edges ↔
      ∃ u, units.find? (fun v => v.id == s) = some u ∧
        (∃ name ∈ references u, shortName name = t) ∧ t ≠ s ∧ t ∈ units.map SourceUnit.id := by
  obtain ⟨-, hbuilt⟩ := ofUnits_built references hworkers units
  rw [hbuilt.coherent.mem_edges_iff, hbuilt.hasEdge_iff]
  simp only [mem_mentions_collect (nodup_ids_distinctUnits units), mem_distinctUnits,
    mem_ids_distinctUnits]
  constructor
  · rintro ⟨name, ⟨u, hu, rfl, hname⟩, ht, hne, hunit⟩
    exact ⟨u, hu, ⟨name, hname, ht⟩, hne, hunit⟩
  · rintro ⟨u, hu, ⟨name, hname, ht⟩, hne, hunit⟩
    have hid : u.id = s := by simpa using List.find?_some hu
    subst hid
    exact ⟨name, ⟨u, hu, rfl, hname⟩, ht, hne, hunit⟩

theorem ReferenceGraph.edges_ofUnits_eq (hworkers : 0 < workers)
    (hsegments : ∀ u t, (∃ name ∈ references u, shortName name = t) ↔
      ∃ name ∈ references' u, shortName name = t) :
    (ofUnits references workers units).edges = (ofUnits references' workers units).edges := by
  obtain ⟨-, hbuilt⟩ := ofUnits_built references hworkers units
  obtain ⟨-, hbuilt'⟩ := ofUnits_built references' hworkers units
  refine eq_of_mem_iff_of_pairwise Edge.asymm hbuilt.coherent.pairwise_edges
    hbuilt'.coherent.pairwise_edges fun e => ?_
  rw [mem_edges_ofUnits_iff hworkers, mem_edges_ofUnits_iff hworkers]
  simp only [hsegments]

end Edges

/-! ## Tables of choice -/

/-- The references of a unit when the names in its text are looked up in a table made of it. -/
def referencesThrough (table : List Char → AliasTable) (files : FileTexts)
    (config : ExtractionConfig) (u : SourceUnit) : NameSet :=
  match u.text files with
  | .ok text => extractThrough (table text.toList) config text.toList
  | .error _ => .empty

/-- The table of a text's directives, but with other imports. -/
def withImports (imports : List String) (text : List Char) : AliasTable :=
  { directives (withoutByteOrderMark text) with imports := imports }

section Tables
variable {files : FileTexts} {config : ExtractionConfig} {u : SourceUnit}

theorem references_eq_referencesThrough : u.references files config =
    referencesThrough
      (fun text =>
        if config.expandAliases then directives (withoutByteOrderMark text) else .empty)
      files config u := by
  unfold SourceUnit.references referencesThrough
  cases u.text files with
  | error fault => rfl
  | ok text => exact extract_eq_extractThrough config text.toList

theorem references_expanded :
    u.references files { config with expandAliases := true } =
      referencesThrough (fun text => directives (withoutByteOrderMark text)) files config u :=
  references_eq_referencesThrough

theorem references_plain :
    u.references files { config with expandAliases := false } =
      referencesThrough (fun _ => .empty) files config u :=
  references_eq_referencesThrough

/-- Whatever a table imports, its last segments are those found without it and those of its aliases'
targets. -/
theorem exists_shortName_referencesThrough_iff (table : List Char → AliasTable)
    {segment : String} :
    (∃ name ∈ referencesThrough table files config u, shortName name = segment) ↔
      (∃ name ∈ referencesThrough (fun _ => .empty) files config u, shortName name = segment) ∨
      ∃ text short target, u.text files = .ok text ∧
        (table text.toList).aliasTarget? short = some target ∧
        short ∈ referencesThrough (fun _ => .empty) files config u ∧
        isFiltered target = false ∧ shortName target = segment := by
  unfold referencesThrough
  cases htext : u.text files with
  | error fault =>
    have hempty : ∀ name, name ∉ NameSet.empty := fun name => List.not_mem_nil
    simp [hempty]
  | ok text =>
    refine exists_shortName_extractThrough_iff.trans (or_congr_right ?_)
    constructor
    · rintro ⟨short, target, halias, hshort⟩
      exact ⟨text, short, target, rfl, halias, hshort⟩
    · rintro ⟨text', short, target, hsame, halias, hshort⟩
      obtain rfl := Except.ok.inj hsame
      exact ⟨short, target, halias, hshort⟩

/-- The imports of a table are not seen in last segments. -/
theorem exists_shortName_withImports_iff {imports : List String} {segment : String} :
    (∃ name ∈ referencesThrough (withImports imports) files config u, shortName name = segment) ↔
      ∃ name ∈ u.references files { config with expandAliases := true },
        shortName name = segment := by
  rw [references_expanded, exists_shortName_referencesThrough_iff (withImports imports),
    exists_shortName_referencesThrough_iff fun text => directives (withoutByteOrderMark text)]
  exact Iff.rfl

end Tables

/-- Expanded names keep every edge and add those to which an alias leads: the unit refers to the
alias, and what the alias stands for in the end is no filtered name and ends in another unit's id.
What is imported, by whatever directives, makes no difference. -/
theorem expansion_adds_alias_edges (files : SourceUnit → FileTexts) (config : ExtractionConfig)
    {workers : Nat} (hworkers : 0 < workers) (units : List SourceUnit) :
    let references := fun (expand : Bool) (u : SourceUnit) =>
      u.references (files u) { config with expandAliases := expand }
    let graph := fun expand => ReferenceGraph.ofUnits (references expand) workers units
    (∀ s t, Edge.mk s t ∈ (graph true).edges ↔ Edge.mk s t ∈ (graph false).edges ∨
      ∃ u text short target, units.find? (fun v => v.id == s) = some u ∧
        u.text (files u) = .ok text ∧ LastTarget (aliasesIn text.toList) short target ∧
        short ∈ references false u ∧ isFiltered target = false ∧
        shortName target = t ∧ t ∈ units.map SourceUnit.id ∧ t ≠ s) ∧
    ∀ imports : SourceUnit → List String,
      (ReferenceGraph.ofUnits
        (fun u => referencesThrough (withImports (imports u)) (files u) config u) workers
        units).edges = (graph true).edges := by
  intro references graph
  refine ⟨fun s t => ?_, fun imports => ?_⟩
  · have hsegments : ∀ u, (∃ name ∈ references true u, shortName name = t) ↔
        (∃ name ∈ references false u, shortName name = t) ∨ ∃ text short target,
          u.text (files u) = .ok text ∧ LastTarget (aliasesIn text.toList) short target ∧
          short ∈ references false u ∧ isFiltered target = false ∧ shortName target = t := by
      intro u
      simp only [references, references_expanded, references_plain,
        ← aliasTarget?_directives_iff]
      exact exists_shortName_referencesThrough_iff _
    rw [ReferenceGraph.mem_edges_ofUnits_iff hworkers, ReferenceGraph.mem_edges_ofUnits_iff hworkers]
    simp only [hsegments]
    constructor
    · rintro ⟨u, hu, hplain | ⟨text, short, target, htext, hlast, hshort, hkept, ht⟩, hne, hunit⟩
      · exact .inl ⟨u, hu, hplain, hne, hunit⟩
      · exact .inr ⟨u, text, short, target, hu, htext, hlast, hshort, hkept, ht, hunit, hne⟩
    · rintro (⟨u, hu, hplain, hne, hunit⟩ |
        ⟨u, text, short, target, hu, htext, hlast, hshort, hkept, ht, hunit, hne⟩)
      · exact ⟨u, hu, .inl hplain, hne, hunit⟩
      · exact ⟨u, hu, .inr ⟨text, short, target, htext, hlast, hshort, hkept, ht⟩, hne, hunit⟩
  · exact ReferenceGraph.edges_ofUnits_eq hworkers fun u t => exists_shortName_withImports_iff

def importingText : String :=
  "using P = Game.Player;\nusing Game.Shop;\nclass A { public P x; public Shop y; }"

/-- A unit with a text, and the units to which an alias and an import in it may lead. -/
def importingUnits (text : String) : List SourceUnit :=
  [⟨"A", .text text⟩, ⟨"Player", .text ""⟩, ⟨"Shop", .text ""⟩]

theorem names_importingText :
    (extract .fieldsOnly importingText.toList).names = ["P", "Shop"] := by
  decide +kernel

theorem aliasesIn_importingText : aliasesIn importingText.toList = [("P", "Game.Player")] := by
  decide

theorem expansion_adds_alias_edges_importingUnits :
    let references := fun (expand : Bool) (u : SourceUnit) =>
      u.references (fun _ => .error .notFound)
        { ExtractionConfig.fieldsOnly with expandAliases := expand }
    let graph := fun expand =>
      ReferenceGraph.ofUnits (references expand) 2 (importingUnits importingText)
    0 < 2 ∧ Edge.mk "A" "Player" ∈ (graph true).edges ∧
      Edge.mk "A" "Player" ∉ (graph false).edges ∧ Edge.mk "A" "Shop" ∈ (graph false).edges ∧
      (ReferenceGraph.ofUnits (referencesThrough (withImports []) (fun _ => .error .notFound)
        .fieldsOnly) 2 (importingUnits importingText)).edges = (graph true).edges := by
  have hnames := names_importingText
  have haliases := aliasesIn_importingText
  -- the text is only known by what is found in it, so that nothing below reads it again
  generalize importingText = text at hnames haliases ⊢
  intro references graph
  have hworkers : 0 < 2 := by decide
  obtain ⟨hedges, himports⟩ := expansion_adds_alias_edges (fun _ _ => .error .notFound)
    .fieldsOnly hworkers (importingUnits text)
  have hfirst : (importingUnits text).find? (fun v => v.id == "A") = some ⟨"A", .text text⟩ := rfl
  have hmem : ∀ name, name ∈ references false ⟨"A", .text text⟩ ↔ name = "P" ∨ name = "Shop" := by
    intro name
    have hextract : references false ⟨"A", .text text⟩ = extract .fieldsOnly text.toList := rfl
    rw [hextract, NameSet.mem_iff_mem_names, hnames]
    simp
  have hplain : ∀ t, Edge.mk "A" t ∈ (graph false).edges ↔
      (shortName "P" = t ∨ shortName "Shop" = t) ∧ t ≠ "A" ∧ t ∈ ["A", "Player", "Shop"] := by
    intro t
    rw [ReferenceGraph.mem_edges_ofUnits_iff hworkers, hfirst]
    simp [hmem, importingUnits]
  have hlast : LastTarget (aliasesIn text.toList) "P" "Game.Player" := by
    rw [haliases]
    exact ⟨[], [], rfl, by simp⟩
  refine ⟨hworkers, (hedges "A" "Player").2 (.inr ?_), ?_, ?_, himports fun _ => []⟩
  · exact ⟨_, text, "P", "Game.Player", hfirst, rfl, hlast, (hmem "P").2 (.inl rfl), by decide,
      by decide, by simp [importingUnits], by decide⟩
  · rw [hplain]
    decide
  · rw [hplain]
    decide

end RefAtlas.Graph
