import RefAtlas.Proofs.Dictionary
import RefAtlas.Proofs.Source.Scan

/-! # Which files a scan finds

* `Path.extension?_join`: the extension of a file below a directory is that of its last name.
* `isSkipped_eq_false_iff`, `isReached_iff`: the way to a file that a scan reaches.
* `scan_finds_eligible_files`: exactly the files of a size and an extension that are asked for, on whose
  way nothing is left out. The directory in which the scan starts is not looked at itself.
* `hidden_file_kept`: a rule that keeps an entry shows it although its name hides it.
-/

namespace RefAtlas.Source
open RefAtlas.Reference
set_option autoImplicit false

/-! ## The last name of a path -/

namespace Path

theorem pieces_append_slash (path : String) {name : String} (hname : '/' ∉ name.toList) :
    pieces (path ++ "/" ++ name) = pieces path ++ [name] := by
  have hchars : (path ++ "/" ++ name).toList = path.toList ++ '/' :: name.toList := by simp
  have hlast : name.toList.splitOn '/' = [name.toList] := List.splitOn_eq_singleton hname
  have hsplit : (path.toList ++ '/' :: name.toList).splitOn '/' =
      path.toList.splitOn '/' ++ name.toList.splitOn '/' :=
    List.splitOnP_append_cons _ _ (beq_self_eq_true '/')
  rw [pieces, hchars, hsplit, hlast, List.map_append, pieces]
  simp

theorem extension?_append_slash (path : String) {name : String} (hname : IsName name) :
    extension? (path ++ "/" ++ name) = (splitExtension name).2 := by
  obtain ⟨hempty, hpoint, hup, hslash⟩ := hname
  have hnames : names (path ++ "/" ++ name) = names path ++ [name] := by
    rw [names, pieces_append_slash path hslash, List.filter_append, names]
    simp [hempty, hpoint]
  have hfile : fileName? (path ++ "/" ++ name) = some name := by
    rw [fileName?, hnames]
    simp [hup]
  rw [extension?, hfile]
  rfl

theorem exists_append_eq {path : String} (hpath : path ≠ "") (more : String) :
    ∃ start, append path more = start ++ "/" ++ more := by
  rw [append]
  split
  · next hslash =>
    have hlast : path.toList.getLast? = some '/' := by simpa [hpath] using hslash
    obtain ⟨chars, hchars⟩ := List.getLast?_eq_some_iff.1 hlast
    refine ⟨String.ofList chars, congrArg (· ++ more) (String.toList_inj.1 ?_)⟩
    simp [hchars]
  · exact ⟨path, rfl⟩

/-- Behind a path that is not empty, the path of a place ends in a slash and its last name. -/
theorem exists_join_eq {path : String} (hpath : path ≠ "") (before : Place) (name : String) :
    ∃ start, join path (before ++ [name]) = start ++ "/" ++ name := by
  obtain ⟨start, hstart⟩ := exists_append_eq hpath (ofPlace (before ++ [name]))
  have hjoin : join path (before ++ [name]) = start ++ "/" ++ ofPlace (before ++ [name]) := by
    rw [join, if_neg (by simp), hstart]
  by_cases hbefore : before = []
  · refine ⟨start, ?_⟩
    rw [hjoin, hbefore, List.nil_append, ofPlace, String.intercalate_singleton]
  · refine ⟨start ++ "/" ++ ofPlace before, ?_⟩
    have hplace : ofPlace (before ++ [name]) = ofPlace before ++ "/" ++ name := by
      rw [ofPlace, String.intercalate_append_of_ne_nil hbefore (List.cons_ne_nil name []),
        String.intercalate_singleton, ofPlace]
    rw [hjoin, hplace]
    simp only [String.append_assoc]

theorem extension?_join {path : String} (hpath : path ≠ "") {below : Place} {name : String}
    (hlast : below.getLast? = some name) (hname : IsName name) :
    extension? (join path below) = (splitExtension name).2 := by
  obtain ⟨before, rfl⟩ := List.getLast?_eq_some_iff.1 hlast
  obtain ⟨start, hstart⟩ := exists_join_eq hpath before name
  rw [hstart, extension?_append_slash start hname]

end Path

/-! ## The way to a file -/

section Way
variable {rules : IgnoreRules} {directory : Place} {name : String} {isDirectory : Bool}

/-- A scan looks at an entry that is no directory of tools, if a rule keeps it, or if no rule says
anything and its name does not hide it. -/
theorem isSkipped_eq_false_iff : isSkipped rules directory name isDirectory = false ↔
    isScope name = false ∧ (rules.verdict? directory name isDirectory = some .kept ∨
      rules.verdict? directory name isDirectory = none ∧ isHidden name = false) := by
  rw [isSkipped]
  cases rules.verdict? directory name isDirectory with
  | none => simp [and_comm]
  | some verdict => cases verdict <;> simp

/-- Something holds of every entry on the way from a directory to a place below it: of the directory in
which it stands, its name, and whether the way goes on below it. -/
def OnWay (p : Place → String → Bool → Prop) (directory below : Place) : Prop :=
  ∀ before name after, below = before ++ name :: after →
    p (directory ++ before) name (!after.isEmpty)

theorem onWay_nil (p : Place → String → Bool → Prop) (directory : Place) : OnWay p directory [] := by
  intro before name after h
  simp at h

theorem onWay_cons_iff {p : Place → String → Bool → Prop} {rest : Place} :
    OnWay p directory (name :: rest) ↔
      p directory name (!rest.isEmpty) ∧ OnWay p (directory ++ [name]) rest := by
  constructor
  · intro h
    refine ⟨by simpa using h [] name rest rfl, fun before other after hrest => ?_⟩
    have hway := h (name :: before) other after (by rw [hrest]; rfl)
    simpa using hway
  · rintro ⟨hfirst, hrest⟩ before other after h
    cases before with
    | nil =>
      obtain ⟨rfl, rfl⟩ := List.cons.inj h
      simpa using hfirst
    | cons first before =>
      obtain ⟨rfl, rfl⟩ := List.cons.inj h
      simpa using hrest before other after rfl

theorem isReached_iff {below : Place} : isReached rules directory below = true ↔
    OnWay (fun d n isDirectory => isSkipped rules d n isDirectory = false) directory below := by
  induction below generalizing directory with
  | nil => simp [isReached, onWay_nil]
  | cons name rest ih =>
    rw [onWay_cons_iff, ← ih]
    cases rest <;> simp [isReached]

end Way

/-! ## Source files -/

/-- Whether a text is an extension of sources, in whatever letter case. -/
def IsExtension (config : ExtractionConfig) (ext : String) : Prop :=
  ∃ e ∈ config.extensions, smallName e = smallName ext

/-- A file below a directory whose extension and size are asked for. -/
structure IsSource (t : FileTree) (config : ExtractionConfig) (root below : Place) : Prop where
  size : ∃ bytes, (root ++ below, .file bytes) ∈ t.entries ∧ bytes.size ≤ config.maxFileSize
  extension : ∃ name ext, below.getLast? = some name ∧
    (Path.splitExtension name).2 = some ext ∧ IsExtension config ext

theorem hasSourceExtension_iff {config : ExtractionConfig} {path : String} :
    hasSourceExtension config path = true ↔
      ∃ ext, Path.extension? path = some ext ∧ IsExtension config ext := by
  rw [hasSourceExtension]
  cases Path.extension? path with
  | none => simp
  | some ext => simp [IsExtension]

/-- A directory that is opened at the end of a path, in a tree whose entries have names. -/
structure Opens (fs : FileSystem) (rootPath : String) (root : Place) : Prop where
  names : ∀ e ∈ fs.tree.entries, ∀ name ∈ e.1, Path.IsName name
  opened : fs.opened? rootPath = .ok root
  isDirectory : fs.tree.isDirectory root = true

section Scan
variable {fs : FileSystem} {config : ExtractionConfig} {rootPath : String} {root below : Place}

theorem Opens.rootPath_ne (h : Opens fs rootPath root) : rootPath ≠ "" := by
  rintro rfl
  have hopened := h.opened
  rw [FileSystem.opened?, FileSystem.place?] at hopened
  simp [Path.holdsZero] at hopened

theorem Opens.below_ne_nil (h : Opens fs rootPath root) {bytes : ByteArray}
    (hfile : (root ++ below, .file bytes) ∈ fs.tree.entries) : below ≠ [] := by
  rintro rfl
  rw [List.append_nil] at hfile
  have hno := FileTree.not_isDirectory_of_file_mem hfile
  rw [h.isDirectory] at hno
  cases hno

theorem Opens.hasSourceExtension_iff (h : Opens fs rootPath root) {bytes : ByteArray}
    (hfile : (root ++ below, .file bytes) ∈ fs.tree.entries) :
    hasSourceExtension config (Path.join rootPath below) = true ↔
      ∃ name ext, below.getLast? = some name ∧
        (Path.splitExtension name).2 = some ext ∧ IsExtension config ext := by
  obtain ⟨before, name, rfl⟩ :=
    (List.eq_nil_or_concat' below).resolve_left (h.below_ne_nil hfile)
  have hname : Path.IsName name := h.names _ hfile name (by simp)
  rw [Source.hasSourceExtension_iff,
    Path.extension?_join h.rootPath_ne List.getLast?_concat hname]
  simp

theorem Opens.mem_scan_iff (h : Opens fs rootPath root) :
    below ∈ scan fs config rootPath ↔ IsSource fs.tree config root below ∧
      OnWay (fun d n isDirectory => isSkipped (.ofFiles fs) d n isDirectory = false) root below := by
  rw [Source.mem_scan_iff]
  constructor
  · rintro ⟨root', bytes, hroot, hfile, hreached, hextension, hsize⟩
    obtain rfl := Except.ok.inj (h.opened.symm.trans hroot)
    exact ⟨⟨⟨bytes, hfile, hsize⟩, (h.hasSourceExtension_iff hfile).1 hextension⟩,
      isReached_iff.1 hreached⟩
  · rintro ⟨⟨⟨bytes, hfile, hsize⟩, hextension⟩, hway⟩
    exact ⟨root, bytes, h.opened, hfile, isReached_iff.2 hway,
      (h.hasSourceExtension_iff hfile).2 hextension, hsize⟩

end Scan

/-! ## Two roots -/

section Roots
variable {fs fs' : FileSystem} {config : ExtractionConfig} {rootPath rootPath' : String}
  {root root' : Place}

/-- What stands below two directories is the same, and so is what the ignore rules say on the way to a
file. -/
structure SameBelow (fs : FileSystem) (root : Place) (fs' : FileSystem) (root' : Place) : Prop where
  entries : ∀ below entry,
    (root' ++ below, entry) ∈ fs'.tree.entries ↔ (root ++ below, entry) ∈ fs.tree.entries
  verdicts : ∀ below bytes, (root ++ below, .file bytes) ∈ fs.tree.entries →
    ∀ before name after, below = before ++ name :: after →
      (IgnoreRules.ofFiles fs').verdict? (root' ++ before) name (!after.isEmpty) =
        (IgnoreRules.ofFiles fs).verdict? (root ++ before) name (!after.isEmpty)

theorem SameBelow.isSource_iff (h : SameBelow fs root fs' root') {below : Place} :
    IsSource fs'.tree config root' below ↔ IsSource fs.tree config root below := by
  constructor
  · rintro ⟨⟨bytes, hfile, hsize⟩, hextension⟩
    exact ⟨⟨bytes, (h.entries below _).1 hfile, hsize⟩, hextension⟩
  · rintro ⟨⟨bytes, hfile, hsize⟩, hextension⟩
    exact ⟨⟨bytes, (h.entries below _).2 hfile, hsize⟩, hextension⟩

theorem SameBelow.scan_eq (h : SameBelow fs root fs' root') (hroot : Opens fs rootPath root)
    (hroot' : Opens fs' rootPath' root') :
    scan fs' config rootPath' = scan fs config rootPath := by
  refine eq_of_mem_iff_of_pairwise (fun _ _ => List.lt_asymm) (pairwise_scan ..)
    (pairwise_scan ..) fun below => ?_
  rw [hroot'.mem_scan_iff, hroot.mem_scan_iff, h.isSource_iff]
  refine and_congr_right fun hsource => ?_
  obtain ⟨bytes, hfile, -⟩ := hsource.size
  have hskipped : ∀ before name after, below = before ++ name :: after →
      isSkipped (.ofFiles fs') (root' ++ before) name (!after.isEmpty) =
        isSkipped (.ofFiles fs) (root ++ before) name (!after.isEmpty) := by
    intro before name after hway
    rw [isSkipped, h.verdicts below bytes hfile before name after hway, isSkipped]
  refine forall₃_congr fun before name after => forall_congr' fun hway => ?_
  exact Eq.congr_left (hskipped before name after hway)

end Roots

/-! ## The scan of a directory -/

/-- A scan of a directory comes in the order of places. It finds the source files on whose way no
directory of tools stands, nothing that a rule ignores, and nothing hidden that no rule keeps; so where
no rule says anything, all of them with a plain way. The directory itself may be called anything. -/
theorem scan_finds_eligible_files {fs : FileSystem} {rootPath : String} {root : Place}
    (hroot : Opens fs rootPath root) (config : ExtractionConfig) :
    let found := scan fs config rootPath
    let verdict? := (IgnoreRules.ofFiles fs).verdict?
    found.Pairwise (· < ·) ∧
    (∀ below, below ∈ found ↔ IsSource fs.tree config root below ∧
      OnWay (fun d name isDirectory => isScope name = false ∧
        (verdict? d name isDirectory = some .kept ∨
          verdict? d name isDirectory = none ∧ isHidden name = false)) root below) ∧
    (∀ below, OnWay (fun d name isDirectory => verdict? d name isDirectory = none) root below →
      (below ∈ found ↔ IsSource fs.tree config root below ∧
        ∀ name ∈ below, isHidden name = false ∧ isScope name = false)) ∧
    ∀ fs' rootPath' root', Opens fs' rootPath' root' → SameBelow fs root fs' root' →
      scan fs' config rootPath' = found := by
  intro found verdict?
  have hfound : ∀ below, below ∈ found ↔ IsSource fs.tree config root below ∧
      OnWay (fun d name isDirectory => isScope name = false ∧
        (verdict? d name isDirectory = some .kept ∨
          verdict? d name isDirectory = none ∧ isHidden name = false)) root below := by
    intro below
    rw [hroot.mem_scan_iff]
    simp only [isSkipped_eq_false_iff]
    rfl
  refine ⟨pairwise_scan .., hfound, fun below hfree => ?_,
    fun fs' rootPath' root' hroot' hsame => hsame.scan_eq hroot hroot'⟩
  rw [hfound]
  refine and_congr_right fun _ => ⟨fun hway name hname => ?_, fun hplain before name after h => ?_⟩
  · obtain ⟨before, after, h⟩ := List.append_of_mem hname
    obtain ⟨hscope, hkept | ⟨-, hhidden⟩⟩ := hway before name after h
    · cases (hfree before name after h).symm.trans hkept
    · exact ⟨hhidden, hscope⟩
  · obtain ⟨hhidden, hscope⟩ := hplain name (by rw [h]; simp)
    exact ⟨hscope, .inr ⟨hfree before name after h, hhidden⟩⟩

/-- A project in a directory with a given name. -/
def boxed (name : String) : FileSystem where
  tree :=
    { entries := [([name, "Core", "Item.CS"], .file .empty), ([name, "notes.md"], .file .empty),
        ([name, "obj", "Door.cs"], .file .empty)]
      sorted := by
        have hnames : ("Core" < "notes.md" ∧ "Core" < "obj") ∧ "notes.md" < "obj" := by
          decide +kernel
        simpa [List.cons_lt_cons_iff] using hnames }
  workingDirectory := []

theorem verdict?_of_files_nil {rules : IgnoreRules} (h : rules.files = []) (directory : Place)
    (name : String) (isDirectory : Bool) : rules.verdict? directory name isDirectory = none := by
  have hin : ∀ kind place, rules.verdictIn? kind place isDirectory = fun _ => none := by
    intro kind place
    funext directory
    rw [IgnoreRules.verdictIn?, h]
    rfl
  simp [IgnoreRules.verdict?, hin]

theorem opens_boxed_bin : Opens (boxed "bin") "bin" ["bin"] :=
  ⟨by decide, by decide, by decide⟩

theorem opens_boxed_hidden : Opens (boxed ".git") "/.git" [".git"] :=
  ⟨by decide, by decide, by decide⟩

theorem sameBelow_boxed : SameBelow (boxed "bin") ["bin"] (boxed ".git") [".git"] where
  entries below entry := by simp [boxed]
  verdicts below bytes hfile before name after hway := by
    have hfree : (IgnoreRules.ofFiles (boxed "bin")).files.isEmpty = true := by decide
    have hfree' : (IgnoreRules.ofFiles (boxed ".git")).files.isEmpty = true := by decide
    rw [verdict?_of_files_nil (List.isEmpty_iff.1 hfree),
      verdict?_of_files_nil (List.isEmpty_iff.1 hfree')]

theorem scan_finds_eligible_files_boxed :
    Opens (boxed "bin") "bin" ["bin"] ∧ isScope "bin" = true ∧
    scan (boxed ".git") .standard "/.git" = scan (boxed "bin") .standard "bin" ∧
    ["Core", "Item.CS"] ∈ scan (boxed "bin") .standard "bin" ∧
    ["obj", "Door.cs"] ∉ scan (boxed "bin") .standard "bin" := by
  obtain ⟨-, -, hfree, hsame⟩ := scan_finds_eligible_files opens_boxed_bin .standard
  have hfiles : (IgnoreRules.ofFiles (boxed "bin")).files.isEmpty = true := by decide
  have hway : ∀ below, OnWay (fun d name isDirectory =>
      (IgnoreRules.ofFiles (boxed "bin")).verdict? d name isDirectory = none) ["bin"] below :=
    fun below before name after _ => verdict?_of_files_nil (List.isEmpty_iff.1 hfiles) _ _ _
  refine ⟨opens_boxed_bin, by decide,
    hsame _ _ _ opens_boxed_hidden sameBelow_boxed, ?_, fun hmem => ?_⟩
  · refine (hfree _ (hway _)).2 ⟨⟨⟨.empty, by simp [boxed], Nat.zero_le _⟩, ?_⟩, by decide⟩
    exact ⟨"Item.CS", "CS", rfl, by decide, "cs", List.mem_cons_self, by decide⟩
  · have hscope := (((hfree _ (hway _)).1 hmem).2 "obj" List.mem_cons_self).2
    have hobj : isScope "obj" = true := by decide
    cases hobj.symm.trans hscope

/-- A file whose name hides it, and a rule that keeps it. -/
def keptSecret : FileSystem where
  tree := .ofList [([".ignore"], .file "!.secret.cs\n".toUTF8),
    ([".secret.cs"], .file "class Secret {}".toUTF8)]
  workingDirectory := []

theorem hidden_file_kept :
    (∀ e ∈ keptSecret.tree.entries, ∀ name ∈ e.1, Path.IsName name) ∧
    scan keptSecret .standard "." = [[".secret.cs"]] ∧ isHidden ".secret.cs" = true := by
  decide +kernel

end RefAtlas.Source
