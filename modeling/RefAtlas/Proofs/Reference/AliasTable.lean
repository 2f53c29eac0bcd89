import Mathlib.Data.List.Induction
import RefAtlas.Proofs.Reference.Expansion

/-! # What an alias table answers

A table keeps the aliases and the imported paths of its directives apart, and no path twice. Its
answers are nevertheless those of all the directives in their order.

* `Directive`, `AliasTable.ofHistory`: the table that a history of directives makes.
* `pathSegments`: what stands between the separators of a path; `lastSegment_eq_getLast?` reads the
  last segment off them.
* `IsShortFor`: a path that may be called by a name; `FirstPath`: the earliest of several.
* `expand_ofHistory`: what a name stands for after a history.
-/

namespace RefAtlas.Reference
set_option autoImplicit false

/-! ## Segments of paths -/

def pathSegments (cs : List Char) : List (List Char) :=
  (cs.splitOnP isSeparator).filter fun segment => !segment.isEmpty

section Segments
variable {cs : List Char} {c : Char}

theorem pathSegments_append_cons (hc : isSeparator c = true) (front back : List Char) :
    pathSegments (front ++ c :: back) = pathSegments front ++ pathSegments back := by
  rw [pathSegments, List.splitOnP_append_cons front back hc, List.filter_append]
  rfl

theorem pathSegments_of_not_separator (hne : cs ≠ []) (h : ∀ c ∈ cs, isSeparator c = false) :
    pathSegments cs = [cs] := by
  rw [pathSegments, List.splitOnP_eq_singleton h]
  simp [hne]

theorem pathSegments_append_separators {back : List Char} (h : ∀ c ∈ back, isSeparator c = true)
    (front : List Char) : pathSegments (front ++ back) = pathSegments front := by
  induction back generalizing front with
  | nil => rw [List.append_nil]
  | cons c back ih =>
    obtain ⟨hc, hback⟩ := List.forall_mem_cons.1 h
    have hempty : pathSegments back = [] := ih hback []
    rw [pathSegments_append_cons hc, hempty, List.append_nil]

theorem getLast?_pathSegments_append {front run : List Char} (hne : run ≠ [])
    (hrun : ∀ c ∈ run, isSeparator c = false)
    (hfront : ∀ c ∈ front.getLast?, isSeparator c = true) :
    (pathSegments (front ++ run)).getLast? = some run := by
  rcases List.eq_nil_or_concat front with rfl | ⟨front, c, rfl⟩
  · rw [List.nil_append, pathSegments_of_not_separator hne hrun, List.getLast?_singleton]
  · have hc : isSeparator c = true := hfront c (by simp)
    rw [List.concat_eq_append, List.append_assoc, List.singleton_append,
      pathSegments_append_cons hc, pathSegments_of_not_separator hne hrun, List.getLast?_concat]

theorem lastSegment_eq_getLast? (cs : List Char) :
    lastSegment cs = (pathSegments cs).getLast?.getD cs := by
  have hback : ∀ c ∈ (cs.reverse.takeWhile isSeparator).reverse, isSeparator c = true :=
    fun c hc => List.mem_takeWhile_imp (List.mem_reverse.1 hc)
  have hsegments : pathSegments cs = pathSegments (cs.reverse.dropWhile isSeparator).reverse := by
    rw [← pathSegments_append_separators hback (cs.reverse.dropWhile isSeparator).reverse,
      ← List.reverse_append, List.takeWhile_append_dropWhile, List.reverse_reverse]
  rw [hsegments, lastSegment]
  cases hrest : cs.reverse.dropWhile isSeparator with
  | nil => rfl
  | cons c rest =>
    have hc : isSeparator c = false := by
      have hhead := List.head?_dropWhile_not isSeparator cs.reverse
      rw [hrest] at hhead
      simpa using hhead
    have hne : ((c :: rest).takeWhile fun d => !isSeparator d).reverse ≠ [] := by simp [hc]
    have hrun : ∀ d ∈ ((c :: rest).takeWhile fun d => !isSeparator d).reverse,
        isSeparator d = false := fun d hd => by
      simpa using List.mem_takeWhile_imp (List.mem_reverse.1 hd)
    have hfront : ∀ d ∈ ((c :: rest).dropWhile fun d => !isSeparator d).reverse.getLast?,
        isSeparator d = true := by
      have hhead := List.head?_dropWhile_not (fun d => !isSeparator d) (c :: rest)
      rw [List.getLast?_reverse]
      intro d hd
      rw [Option.mem_def.1 hd] at hhead
      simpa using hhead
    have hlast := getLast?_pathSegments_append hne hrun hfront
    rw [← List.reverse_append, List.takeWhile_append_dropWhile] at hlast
    rw [hlast, Option.getD_some]
    exact if_neg (by simpa using hne)

end Segments

/-! ## Names for paths -/

/-- The path is longer than the name, and the last of its segments is the name. -/
def IsShortFor (name path : String) : Prop :=
  name.utf8ByteSize < path.utf8ByteSize ∧ (pathSegments path.toList).getLast? = some name.toList

section IsShortFor
variable {name path : String}

theorem isShortFor_iff :
    IsShortFor name path ↔ name.utf8ByteSize < path.utf8ByteSize ∧ shortName path = name := by
  refine and_congr_right fun hlonger => ?_
  rw [shortName, lastSegment_eq_getLast?]
  cases hlast : (pathSegments path.toList).getLast? with
  | none =>
    -- A path of separators alone stands for itself, and it is longer than the name.
    rw [Option.getD_none, String.ofList_toList]
    refine iff_of_false (Option.some_ne_none _).symm fun hself => ?_
    rw [hself] at hlonger
    exact Nat.lt_irrefl _ hlonger
  | some segment =>
    rw [Option.getD_some, Option.some_inj]
    constructor
    · rintro rfl
      exact String.ofList_toList
    · rintro rfl
      exact String.toList_ofList.symm

theorem lastSegment_isInfix (cs : List Char) : lastSegment cs <:+: cs := by
  rw [lastSegment]
  split
  · exact List.infix_rfl
  · rw [← List.reverse_infix, List.reverse_reverse]
    exact (List.takeWhile_prefix _).isInfix.trans (List.dropWhile_suffix _).isInfix

/-- A path has more characters than a name for it, not only more bytes. -/
theorem IsShortFor.length_lt (h : IsShortFor name path) : name.length < path.length := by
  obtain ⟨hlonger, hshort⟩ := isShortFor_iff.1 h
  have hpiece : name.toList <:+: path.toList := by
    rw [← hshort, shortName, String.toList_ofList]
    exact lastSegment_isInfix _
  rw [← String.length_toList, ← String.length_toList]
  refine Nat.lt_of_le_of_ne hpiece.length_le fun heq => ?_
  rw [String.toList_inj.1 (hpiece.eq_of_length heq)] at hlonger
  exact Nat.lt_irrefl _ hlonger

end IsShortFor

/-- Of several paths, this one is the earliest with the name. -/
def FirstPath (paths : List String) (name path : String) : Prop :=
  ∃ before after, paths = before ++ path :: after ∧ IsShortFor name path ∧
    ∀ p ∈ before, ¬ IsShortFor name p

/-! ## Histories -/

/-- What can be recorded in a table. -/
inductive Directive where
  | aliased (short target : String)
  | imported (path : String)

def Directive.alias? : Directive → Option (String × String)
  | .aliased short target => some (short, target)
  | .imported _ => none

def Directive.path? : Directive → Option String
  | .aliased _ _ => none
  | .imported path => some path

def aliasesOf (history : List Directive) : List (String × String) :=
  history.filterMap Directive.alias?

def pathsOf (history : List Directive) : List String := history.filterMap Directive.path?

namespace AliasTable

def add (t : AliasTable) : Directive → AliasTable
  | .aliased short target => t.addAlias short target
  | .imported path => t.addImport path

def ofHistory (history : List Directive) : AliasTable := history.foldl add empty

theorem ofHistory_concat (history : List Directive) (d : Directive) :
    ofHistory (history ++ [d]) = (ofHistory history).add d := by
  rw [ofHistory, List.foldl_append, List.foldl_cons, List.foldl_nil]
  rfl

theorem eraseDups_concat (paths : List String) (path : String) :
    (paths ++ [path]).eraseDups =
      if path ∈ paths then paths.eraseDups else paths.eraseDups ++ [path] := by
  rw [List.eraseDups_append, List.removeAll]
  split
  · rename_i h
    simp [h]
  · rename_i h
    simp [h, List.eraseDups_cons]

/-- A table holds the aliases with the latest one in front, and each path where it first occurs. -/
theorem ofHistory_eq (history : List Directive) :
    ofHistory history = ⟨(aliasesOf history).reverse, (pathsOf history).eraseDups⟩ := by
  induction history using List.reverseRecOn with
  | nil => rfl
  | append_singleton history d ih =>
    rw [ofHistory_concat, ih]
    cases d with
    | aliased short target =>
      have haliases : aliasesOf (history ++ [.aliased short target]) =
          aliasesOf history ++ [(short, target)] := List.filterMap_append
      have hpaths : pathsOf (history ++ [.aliased short target]) = pathsOf history :=
        List.filterMap_append.trans (List.append_nil _)
      rw [haliases, hpaths, List.reverse_append]
      rfl
    | imported path =>
      have haliases : aliasesOf (history ++ [.imported path]) = aliasesOf history :=
        List.filterMap_append.trans (List.append_nil _)
      have hpaths : pathsOf (history ++ [.imported path]) = pathsOf history ++ [path] :=
        List.filterMap_append
      rw [haliases, hpaths, eraseDups_concat, add, addImport]
      simp only [List.contains_iff_mem, List.mem_eraseDups]
      split <;> rfl

/-! ## Answers -/

theorem find?_eraseDups (p : String → Bool) (paths : List String) :
    paths.eraseDups.find? p = paths.find? p := by
  induction paths using List.reverseRecOn with
  | nil => rfl
  | append_singleton paths path ih =>
    rw [eraseDups_concat, List.find?_append, ← ih]
    split
    · rename_i hmem
      cases hfound : paths.eraseDups.find? p with
      | some found => rfl
      | none =>
        have hpath := List.find?_eq_none.1 hfound path (List.mem_eraseDups.2 hmem)
        rw [Option.none_or, List.find?_cons_of_neg hpath, List.find?_nil]
    · rw [List.find?_append]

section Answers
variable {history : List Directive} {name : String}

theorem aliasTarget?_ofHistory_iff {target : String} :
    (ofHistory history).aliasTarget? name = some target ↔
      LastTarget (aliasesOf history) name target := by
  rw [aliasTarget?, ofHistory_eq, find?_reverse_iff_lastTarget]

theorem aliasTarget?_ofHistory_eq_none_iff :
    (ofHistory history).aliasTarget? name = none ↔
      ¬ ∃ target, (name, target) ∈ aliasesOf history := by
  rw [aliasTarget?, ofHistory_eq, Option.map_eq_none_iff, List.find?_eq_none]
  simp only [List.mem_reverse, beq_iff_eq]
  constructor
  · rintro h ⟨target, hmem⟩
    exact h _ hmem rfl
  · rintro h ⟨short, target⟩ hmem rfl
    exact h ⟨target, hmem⟩

theorem importOf?_ofHistory_iff {path : String} :
    (ofHistory history).importOf? name = some path ↔ FirstPath (pathsOf history) name path := by
  rw [importOf?, ofHistory_eq, find?_eraseDups, List.find?_eq_some_iff_append]
  simp only [Bool.and_eq_true, decide_eq_true_eq, beq_iff_eq, ← isShortFor_iff, FirstPath,
    Bool.not_eq_true', ← Bool.not_eq_true]
  constructor
  · rintro ⟨hpath, before, after, hsplit, hbefore⟩
    exact ⟨before, after, hsplit, hpath, hbefore⟩
  · rintro ⟨before, after, hsplit, hpath, hbefore⟩
    exact ⟨hpath, before, after, hsplit, hbefore⟩

theorem importOf?_ofHistory_eq_none_iff :
    (ofHistory history).importOf? name = none ↔
      ∀ path ∈ pathsOf history, ¬ IsShortFor name path := by
  rw [importOf?, ofHistory_eq, find?_eraseDups, List.find?_eq_none]
  simp only [Bool.and_eq_true, decide_eq_true_eq, beq_iff_eq, ← isShortFor_iff]

theorem expand_eq_importOf? {t : AliasTable} (h : t.aliasTarget? name = none) :
    t.expand name = t.importOf? name := by
  unfold expand
  rw [h]

end Answers

end AliasTable

/-- After any history of directives a name stands for the target of its latest alias. A name without
an alias stands for the earliest path that is longer and has the name as its last segment, if there is
one. Only the sequence of the aliases and the order in which the paths first occur matter for the
table, so neither does how the two are mixed nor a path that is repeated. -/
theorem expand_ofHistory (history : List Directive) (name : String) :
    let table := AliasTable.ofHistory history
    let aliased := ∃ target, (name, target) ∈ aliasesOf history
    (∀ long, table.expand name = some long ↔ LastTarget (aliasesOf history) name long ∨
      ¬ aliased ∧ FirstPath (pathsOf history) name long) ∧
    (table.expand name = none ↔ ¬ aliased ∧ ∀ path ∈ pathsOf history, ¬ IsShortFor name path) ∧
    (∀ history', aliasesOf history' = aliasesOf history →
      (pathsOf history').eraseDups = (pathsOf history).eraseDups →
      AliasTable.ofHistory history' = table) ∧
    ∀ path, ¬ aliased → table.expand name = some path →
      name.utf8ByteSize < path.utf8ByteSize ∧ name.length < path.length ∧
        shortName path = name := by
  intro table aliased
  have hnone : table.aliasTarget? name = none ↔ ¬ aliased :=
    AliasTable.aliasTarget?_ofHistory_eq_none_iff
  have hsome : ∀ long, table.aliasTarget? name = some long ↔
      LastTarget (aliasesOf history) name long :=
    fun _ => AliasTable.aliasTarget?_ofHistory_iff
  have hexpand : ∀ long, table.expand name = some long ↔
      LastTarget (aliasesOf history) name long ∨
        ¬ aliased ∧ FirstPath (pathsOf history) name long := by
    intro long
    rw [← hsome, ← hnone]
    cases halias : table.aliasTarget? name with
    | some target =>
      rw [expand_of_aliasTarget? halias]
      simp
    | none =>
      rw [AliasTable.expand_eq_importOf? halias, AliasTable.importOf?_ofHistory_iff]
      simp
  refine ⟨hexpand, ?_, fun history' haliases hpaths => ?_, fun path hplain hpath => ?_⟩
  · rw [← hnone, ← AliasTable.importOf?_ofHistory_eq_none_iff]
    cases halias : table.aliasTarget? name with
    | some target =>
      rw [expand_of_aliasTarget? halias]
      simp
    | none =>
      rw [AliasTable.expand_eq_importOf? halias]
      simp [table]
  · rw [AliasTable.ofHistory_eq, haliases, hpaths, ← AliasTable.ofHistory_eq]
  · have hlast : ¬ LastTarget (aliasesOf history) name path := by
      rw [← hsome, hnone.2 hplain]
      nofun
    obtain ⟨-, _, _, -, hshort, -⟩ := ((hexpand path).1 hpath).resolve_left hlast
    exact ⟨hshort.1, hshort.length_lt, (isShortFor_iff.1 hshort).2⟩

/-- An alias that is given twice, between paths of which one is repeated. -/
theorem expand_ofHistory_mixedDirectives :
    let history : List Directive := [.imported "Game.Cart..", .aliased "V" "Game.Vec",
      .imported "Shop::Cart", .imported "Game.Cart..", .aliased "V" "Cart"]
    let tidied : List Directive := [.aliased "V" "Game.Vec", .aliased "V" "Cart",
      .imported "Game.Cart..", .imported "Shop::Cart"]
    let table := AliasTable.ofHistory history
    table.expand "V" = some "Cart" ∧ table.expand "Cart" = some "Game.Cart.." ∧
      table.expand "Game" = none ∧ AliasTable.ofHistory tidied = table ∧
      "Cart".length < "Game.Cart..".length ∧ shortName "Game.Cart.." = "Cart" := by
  intro history tidied table
  obtain ⟨halias, -, hsame, -⟩ := expand_ofHistory history "V"
  obtain ⟨himport, -, -, hlonger⟩ := expand_ofHistory history "Cart"
  obtain ⟨-, hunknown, -⟩ := expand_ofHistory history "Game"
  have hplain : ¬ ∃ target, ("Cart", target) ∈ aliasesOf history := by
    simp [history, aliasesOf, Directive.alias?]
  have hcart : table.expand "Cart" = some "Game.Cart.." :=
    (himport _).2 (.inr ⟨hplain, [], _, rfl, isShortFor_iff.2 (by decide), nofun⟩)
  obtain ⟨-, hlength, hshort⟩ := hlonger _ hplain hcart
  refine ⟨(halias _).2 (.inl ⟨[("V", "Game.Vec")], [], rfl, nofun⟩), hcart, hunknown.2 ⟨?_, ?_⟩,
    hsame tidied rfl (by decide), hlength, hshort⟩
  · simp [history, aliasesOf, Directive.alias?]
  · have hno : ∀ path ∈ ["Game.Cart..", "Shop::Cart", "Game.Cart.."],
        ¬ ("Game".utf8ByteSize < path.utf8ByteSize ∧ shortName path = "Game") := by decide
    exact fun path hpath hshort => hno path hpath (isShortFor_iff.1 hshort)

end RefAtlas.Reference
