import RefAtlas.Proofs.Graph.Parallel
import RefAtlas.Proofs.Reference.Filter

/-! # What edges point at

An edge points at what a name of its unit ends in, so the filter of names is a filter of targets.

* `Builds.eq_ofUnits`: only one graph comes of a list of units.
* `Builds.exists_name`: the name behind an edge.
* `filtered_stays_in`: no filtered name is a reference or the target of an edge.
-/

namespace RefAtlas.Graph
open RefAtlas.Reference RefAtlas.Source
set_option autoImplicit false

section Builds
variable {references : SourceUnit → NameSet} {workers : Nat} {units : List SourceUnit}
  {g : ReferenceGraph}

theorem Builds.eq_ofUnits (hworkers : 0 < workers) (h : Builds references workers units g) :
    g = .ofUnits references workers units := by
  obtain ⟨map, hmap, rfl⟩ := h
  rw [hmap.eq_collect (nodup_ids_distinctUnits units) hworkers, ReferenceGraph.ofUnits_eq hworkers]

theorem Builds.exists_name (hworkers : 0 < workers) (h : Builds references workers units g)
    {e : Edge} (he : e ∈ g.edges) :
    ∃ u ∈ distinctUnits units, ∃ name ∈ references u, shortName name = e.target := by
  obtain rfl := h.eq_ofUnits hworkers
  obtain ⟨-, hbuilt⟩ := ReferenceGraph.ofUnits_built references hworkers units
  obtain ⟨name, hmem, htarget, -⟩ :=
    (hbuilt.hasEdge_iff e.source e.target).1 (hbuilt.coherent.mem_edges_iff.1 he)
  obtain ⟨u, hu, -, hname⟩ := (mem_mentions_collect (nodup_ids_distinctUnits units)).1 hmem
  exact ⟨u, hu, name, hname, htarget⟩

end Builds

theorem not_isFiltered_of_mem_references {files : FileTexts} {config : ExtractionConfig}
    {u : SourceUnit} {name : String} (h : name ∈ u.references files config) :
    isFiltered name = false := by
  unfold SourceUnit.references at h
  split at h
  · exact not_isFiltered_of_mem_extract h
  · exact absurd h List.not_mem_nil

/-- Whatever the rules find in whatever text, and whatever aliases stand for: no name that comes out
is filtered, nor is its last segment, and no edge points at a keyword or a common type. -/
theorem filtered_stays_in (config : ExtractionConfig) :
    (∀ s, isFiltered s = isFiltered (shortName s)) ∧
    (∀ (rule : Rule) (place : Cursor) (aliases : AliasTable),
      ∀ name ∈ (rule.namesAt place).flatMap (withExpansion aliases), isFiltered name = false) ∧
    (∀ text rule, ∀ name ∈ (classify config text).slot rule,
      isFiltered name = false ∧ isFiltered (shortName name) = false) ∧
    (∀ text, ∀ name ∈ extract config text,
      isFiltered name = false ∧ isFiltered (shortName name) = false) ∧
    ∀ (files : SourceUnit → FileTexts) (workers : Nat) (units : List SourceUnit)
      (g : ReferenceGraph), 0 < workers →
      Builds (fun u => u.references (files u) config) workers units g →
      ∀ e ∈ g.edges, String.ofList (Text.lowerAscii e.target.toList) ∉ keywords ∧
        e.target ∉ commonTypes := by
  have hboth : ∀ {name}, isFiltered name = false →
      isFiltered name = false ∧ isFiltered (shortName name) = false := by
    intro name hname
    exact ⟨hname, (isFiltered_shortName name).trans hname⟩
  refine ⟨fun s => (isFiltered_shortName s).symm, ?_, ?_, ?_, ?_⟩
  · intro rule place aliases
    have hnames := kept_namesAt rule place
    exact Kept.flatMap fun name hname => kept_withExpansion aliases (hnames name hname)
  · intro text rule name hname
    exact hboth (not_isFiltered_of_mem_slot hname)
  · intro text name hname
    exact hboth (not_isFiltered_of_mem_extract hname)
  · intro files workers units g hworkers hbuilds e he
    obtain ⟨u, -, name, hname, htarget⟩ := hbuilds.exists_name hworkers he
    have hkept := not_isFiltered_of_mem_references hname
    rw [Bool.eq_false_iff, ne_eq, isFiltered_iff, htarget, not_or] at hkept
    refine ⟨fun hkeyword => hkept.1 ?_, hkept.2⟩
    exact List.contains_iff_mem.2 hkeyword

def aliasConfig : ExtractionConfig := { ExtractionConfig.fieldsOnly with expandAliases := true }

def aliasText : String := "using P = Game.Player;\nclass A { public P x; public String y; }"

/-- A unit that an alias leads to, and one with the id of a common type. -/
def aliasUnits : List SourceUnit :=
  [⟨"A", .text aliasText⟩, ⟨"Player", .text ""⟩, ⟨"String", .text ""⟩]

theorem filtered_stays_in_aliasUnits :
    let references := SourceUnit.references (fun _ => .error .notFound) aliasConfig
    0 < 2 ∧ Builds references 2 aliasUnits (.ofUnits references 2 aliasUnits) ∧
    Edge.mk "A" "Player" ∈ (ReferenceGraph.ofUnits references 2 aliasUnits).edges ∧
    "Player" ∉ commonTypes ∧
    Edge.mk "A" "String" ∉ (ReferenceGraph.ofUnits references 2 aliasUnits).edges ∧
    "Game.Player" ∈ extract aliasConfig aliasText.toList ∧
    isFiltered (shortName "Game.Player") = false := by
  intro references
  obtain ⟨-, -, -, hextract, hedges⟩ := filtered_stays_in aliasConfig
  have hbuilds : Builds references 2 aliasUnits (.ofUnits references 2 aliasUnits) :=
    builds_ofUnits references 2 aliasUnits
  have htargets := hedges (fun _ _ => .error .notFound) 2 aliasUnits _ (by decide) hbuilds
  have hname : "Game.Player" ∈ extract aliasConfig aliasText.toList := by
    change "Game.Player" ∈ (extract aliasConfig aliasText.toList).names
    decide +kernel
  have hplayer : Edge.mk "A" "Player" ∈ (ReferenceGraph.ofUnits references 2 aliasUnits).edges := by
    obtain ⟨-, hbuilt⟩ := ReferenceGraph.ofUnits_built references (by decide : 0 < 2) aliasUnits
    rw [hbuilt.coherent.mem_edges_iff, hbuilt.hasEdge_iff]
    refine ⟨"Game.Player", ?_, by decide, by decide, by decide⟩
    rw [mem_mentions_collect (nodup_ids_distinctUnits aliasUnits)]
    exact ⟨⟨"A", .text aliasText⟩, by decide, rfl, hname⟩
  refine ⟨by decide, hbuilds, hplayer, (htargets _ hplayer).2, fun hstring => ?_, hname,
    (hextract _ _ hname).2⟩
  exact (htargets _ hstring).2 (by decide)

end RefAtlas.Graph
