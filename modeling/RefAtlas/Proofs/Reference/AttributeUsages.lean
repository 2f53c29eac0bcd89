import RefAtlas.Proofs.Reference.AttributeLines
import RefAtlas.Proofs.Reference.OpeningWords
import RefAtlas.Proofs.Reference.TypeNames

/-! # Usages of attributes

* `QualifiedName.withEnding`, `QualifiedName.canonical`: the name of an attribute's class.
* `AttributeUsage`: a name, generic arguments and values in parentheses, each of them if there are
  any, and their text.
* `AttributeUsage.attributeNames_chars`: a usage is read as its arguments and one name. Behind
  generic arguments the ending is not read, so there the name stays as it is written.
* `attributes_spellings`: where the spellings with and without the ending agree, and where not.
-/

namespace RefAtlas.Reference
open RefAtlas.Text
set_option autoImplicit false

/-! ## The ending -/

theorem attributeEnding_eq :
    attributeEnding = ['A', 't', 't', 'r', 'i', 'b', 'u', 't'] ++ ['e'] := by decide

theorem isWord_of_mem_attributeEnding {c : Char} (h : c ∈ attributeEnding) : isWord c = true :=
  List.all_eq_true.1 (by decide : attributeEnding.all isWord = true) c h

def Identifier.withEnding (i : Identifier) : Identifier where
  first := i.first
  rest := i.rest ++ attributeEnding
  starts := i.starts
  continues := List.forall_mem_append.2 ⟨i.continues, fun _ => isWord_of_mem_attributeEnding⟩

/-- The steps of a name, with the ending behind the last one. -/
def stepsWithEnding (step : Joint × Identifier) :
    List (Joint × Identifier) → List (Joint × Identifier)
  | [] => [(step.1, step.2.withEnding)]
  | next :: more => step :: stepsWithEnding next more

namespace QualifiedName

def withEnding (q : QualifiedName) : QualifiedName :=
  match q.more with
  | [] => ⟨q.first.withEnding, []⟩
  | step :: more => ⟨q.first, stepsWithEnding step more⟩

/-- The name of the class of an attribute. -/
def canonical (q : QualifiedName) : QualifiedName :=
  if attributeEnding.isSuffixOf q.chars then q else q.withEnding

theorem flatMap_stepsWithEnding (step : Joint × Identifier) (more : List (Joint × Identifier)) :
    ((stepsWithEnding step more).flatMap fun s => s.1.chars ++ s.2.chars) =
      ((step :: more).flatMap fun s => s.1.chars ++ s.2.chars) ++ attributeEnding := by
  induction more generalizing step with
  | nil => simp [stepsWithEnding, Identifier.withEnding, Identifier.chars]
  | cons next more ih =>
    rw [stepsWithEnding, List.flatMap_cons, ih, ← List.append_assoc]
    rfl

theorem chars_withEnding (q : QualifiedName) : q.withEnding.chars = q.chars ++ attributeEnding := by
  obtain ⟨first, more⟩ := q
  cases more with
  | nil => simp [withEnding, chars, Identifier.withEnding, Identifier.chars]
  | cons step more =>
    rw [withEnding, chars, chars, flatMap_stepsWithEnding, List.append_assoc]

theorem chars_canonical (q : QualifiedName) : q.canonical.chars = canonicalAttribute q.chars := by
  rw [canonical, canonicalAttribute]
  split
  · rfl
  · exact q.chars_withEnding

theorem isSuffixOf_withEnding (q : QualifiedName) :
    attributeEnding.isSuffixOf q.withEnding.chars = true := by
  rw [chars_withEnding]
  exact List.isSuffixOf_iff_suffix.2 (List.suffix_append _ _)

theorem canonical_of_not_suffix {q : QualifiedName} (h : ¬ attributeEnding <:+ q.chars) :
    q.canonical = q.withEnding := if_neg fun hsuffix => h (List.isSuffixOf_iff_suffix.1 hsuffix)

theorem canonical_withEnding (q : QualifiedName) : q.withEnding.canonical = q.withEnding :=
  if_pos q.isSuffixOf_withEnding

theorem withoutRoot_withEnding (q : QualifiedName) :
    q.withEnding.withoutRoot = q.withoutRoot.withEnding := by
  match q with
  | ⟨first, []⟩ => rfl
  | ⟨first, (.point, next) :: more⟩ => cases more <;> rfl
  | ⟨first, (.colons, next) :: more⟩ =>
    by_cases hroot : first.chars = rootChars <;>
      cases more <;> simp [withEnding, withoutRoot, stepsWithEnding, hroot]

theorem text_withEnding_ne (q : QualifiedName) : q.withEnding.text ≠ q.text := by
  intro heq
  have hchars := String.ofList_injective heq
  rw [chars_withEnding] at hchars
  exact absurd (List.append_right_eq_self.1 hchars) (by decide)

end QualifiedName

/-! ## Usages -/

/-- The values that are given to an attribute. -/
structure AttributeValues where
  chars : List Char
  balanced : Sealed (fun _ => false) chars
  inside : ∀ c ∈ chars, Pattern.outside ['[', ']', '\n'] c = true

/-- A usage of an attribute. Without generic arguments it has no angle brackets, and without values
no parentheses. -/
structure AttributeUsage where
  name : QualifiedName
  arguments : List QualifiedName
  values? : Option AttributeValues

namespace AttributeUsage

def argumentChars (u : AttributeUsage) : List Char :=
  if u.arguments = [] then []
  else '<' :: (separated (u.arguments.map QualifiedName.chars) ++ ['>'])

def head (u : AttributeUsage) : List Char := u.name.chars ++ u.argumentChars

def valueChars (u : AttributeUsage) : List Char :=
  u.values?.elim [] fun values => '(' :: (values.chars ++ [')'])

def chars (u : AttributeUsage) : List Char := u.head ++ u.valueChars

def long (u : AttributeUsage) : AttributeUsage := { u with name := u.name.withEnding }

/-- The name that is read: behind generic arguments no ending is looked for. -/
def read (u : AttributeUsage) : QualifiedName :=
  if u.arguments = [] then u.name.canonical else u.name

theorem itemText_of_mem (u : AttributeUsage) :
    ∀ cs ∈ u.arguments.map QualifiedName.chars, ItemText cs :=
  List.forall_mem_map.2 fun q _ => q.itemText

/-! ### The text of a usage -/

theorem trimmed_head (u : AttributeUsage) : Trimmed u.head := by
  rw [head, argumentChars]
  split
  · rw [List.append_nil]
    exact u.name.trimmed
  · exact u.name.trimmed.append (_ :: _) (Trimmed.singleton rfl)

theorem trimmed_chars (u : AttributeUsage) : Trimmed u.chars := by
  rw [chars, valueChars]
  cases u.values? with
  | none =>
    rw [Option.elim_none, List.append_nil]
    exact u.trimmed_head
  | some values => exact u.trimmed_head.append (_ :: _) (Trimmed.singleton rfl)

theorem sealed_chars (u : AttributeUsage) : Sealed (· == ',') u.chars := by
  have harguments : Sealed (· == ',') u.argumentChars := by
    rw [argumentChars]
    split
    · exact .nil
    · exact sealed_enclosed u.itemText_of_mem rfl rfl rfl
  have hvalues : Sealed (· == ',') u.valueChars := by
    rw [valueChars]
    cases u.values? with
    | none => exact .nil
    | some values => exact .bracket rfl rfl values.balanced rfl .nil
  exact (u.name.itemText.sealed.append harguments).append hvalues

theorem forall_mem_head {p : Char → Prop} (hname : ∀ c, isNamePart c = true → p c)
    (hother : ∀ c ∈ [',', ' ', '<', '>'], p c) (u : AttributeUsage) : ∀ c ∈ u.head, p c := by
  have hpart (q : QualifiedName) : ∀ c ∈ q.chars, p c := fun c hc => hname c (q.isNamePart_of_mem hc)
  have hseparated : ∀ c ∈ separated (u.arguments.map QualifiedName.chars), p c :=
    forall_mem_separated (List.forall_mem_map.2 fun q _ => hpart q) (hother ',' (by simp))
      (hother ' ' (by simp))
  rw [head, argumentChars]
  refine List.forall_mem_append.2 ⟨hpart u.name, ?_⟩
  split
  · exact List.forall_mem_nil _
  · exact List.forall_mem_cons.2 ⟨hother '<' (by simp), List.forall_mem_append.2
      ⟨hseparated, List.forall_mem_singleton.2 (hother '>' (by simp))⟩⟩

theorem takeWhile_chars (u : AttributeUsage) : u.chars.takeWhile (· != '(') = u.head := by
  have hhead : ∀ c ∈ u.head, (c != '(') = true :=
    forall_mem_head (fun c hc => bne_iff_ne.2 (ne_of_isNamePart hc (by decide))) (by simp) u
  rw [chars, List.takeWhile_append_of_pos hhead, valueChars]
  cases u.values? with
  | none => exact List.append_nil _
  | some values =>
    rw [Option.elim_some, List.takeWhile_cons_of_neg (by decide), List.append_nil]

theorem outside_of_mem (u : AttributeUsage) :
    ∀ c ∈ u.chars, Pattern.outside ['[', ']', '\n'] c = true := by
  have hpart {c : Char} (hc : isNamePart c = true) :
      Pattern.outside ['[', ']', '\n'] c = true := by
    have hne : ∀ d, isNamePart d = false → c ≠ d := fun d hd => ne_of_isNamePart hc hd
    simp [Pattern.outside, hne '[' (by decide), hne ']' (by decide), hne '\n' (by decide)]
  refine List.forall_mem_append.2 ⟨forall_mem_head (fun _ => hpart) (by simp [Pattern.outside]) u, ?_⟩
  rw [valueChars]
  cases u.values? with
  | none => exact List.forall_mem_nil _
  | some values =>
    exact List.forall_mem_cons.2 ⟨rfl, List.forall_mem_append.2
      ⟨values.inside, List.forall_mem_singleton.2 rfl⟩⟩

end AttributeUsage

/-! ### Targets -/

def ColonsDoubled (cs : List Char) : Prop :=
  ∀ c rest, cs.dropWhile (· != ':') = c :: rest → rest.head? = some ':'

theorem dropWhile_colon_eq_nil {cs : List Char} (h : ':' ∉ cs) :
    cs.dropWhile (· != ':') = [] :=
  List.dropWhile_eq_nil_iff.2 fun _ hc => bne_iff_ne.2 fun heq => h (heq ▸ hc)

theorem ColonsDoubled.of_not_mem {cs : List Char} (h : ':' ∉ cs) : ColonsDoubled cs := by
  intro _ _ hdrop
  rw [dropWhile_colon_eq_nil h] at hdrop
  cases hdrop

theorem ColonsDoubled.append {cs ds : List Char} (h : ColonsDoubled cs) (h' : ColonsDoubled ds) :
    ColonsDoubled (cs ++ ds) := by
  intro c rest hdrop
  rw [List.dropWhile_append] at hdrop
  split at hdrop
  · exact h' c rest hdrop
  · cases hfirst : cs.dropWhile (· != ':') with
    | nil => simp_all
    | cons d tail =>
      rw [hfirst, List.cons_append] at hdrop
      have htail := h d tail hfirst
      rw [← (List.cons.inj hdrop).2, List.head?_append, htail, Option.some_or]

theorem ColonsDoubled.separated {texts : List (List Char)} (h : ∀ cs ∈ texts, ColonsDoubled cs) :
    ColonsDoubled (separated texts) := by
  induction texts with
  | nil => exact .of_not_mem List.not_mem_nil
  | cons cs texts ih =>
    obtain ⟨hcs, htexts⟩ := List.forall_mem_cons.1 h
    by_cases hempty : texts = []
    · rw [hempty, Reference.separated, List.intercalate_singleton]
      exact hcs
    · rw [separated_cons_of_ne_nil hempty, List.append_cons, List.append_cons]
      exact ((hcs.append (.of_not_mem (by decide))).append (.of_not_mem (by decide))).append
        (ih htexts)

theorem QualifiedName.colonsDoubled (q : QualifiedName) : ColonsDoubled q.chars := by
  have hidentifier (i : Identifier) : ColonsDoubled i.chars :=
    .of_not_mem fun hmem => absurd (i.isWord_of_mem hmem) (by decide)
  have hjoint (joint : Joint) : ColonsDoubled joint.chars := by
    cases joint with
    | point => exact .of_not_mem (by decide)
    | colons =>
      intro c rest hdrop
      cases hdrop
      rfl
  obtain ⟨first, more⟩ := q
  refine (hidentifier first).append ?_
  induction more with
  | nil => exact .of_not_mem List.not_mem_nil
  | cons step more ih =>
    rw [List.flatMap_cons]
    exact ((hjoint step.1).append (hidentifier step.2)).append ih

/-- In front of a parenthesis, doubled colons are no end of a target. -/
theorem withoutTarget_eq_self {cs ds : List Char} (h : ColonsDoubled cs)
    (hparen : ∀ c ∈ ds.head?, c = '(') : withoutTarget (cs ++ ds) = cs ++ ds := by
  unfold withoutTarget
  split
  · rename_i c rest hdrop
    cases hfirst : cs.dropWhile (· != ':') with
    | cons d tail =>
      -- The first colon is doubled.
      rw [List.dropWhile_append, hfirst, if_neg (by simp), List.cons_append] at hdrop
      have htail := h d tail hfirst
      rw [← (List.cons.inj hdrop).2, List.head?_append, htail]
      rfl
    | nil =>
      -- The first colon stands behind a parenthesis.
      have hcs : ∀ c ∈ cs, (c != ':') = true := List.dropWhile_eq_nil_iff.1 hfirst
      cases ds with
      | nil => simp [hfirst] at hdrop
      | cons d tail =>
        obtain rfl := hparen d rfl
        rw [List.takeWhile_append_of_pos hcs, List.takeWhile_cons_of_pos (by decide)]
        simp
  · rfl

namespace AttributeUsage

theorem withoutTarget_chars (u : AttributeUsage) : withoutTarget u.chars = u.chars := by
  refine withoutTarget_eq_self (u.name.colonsDoubled.append ?_) ?_
  · rw [argumentChars]
    split
    · exact .of_not_mem List.not_mem_nil
    · have harguments : ColonsDoubled (separated (u.arguments.map QualifiedName.chars)) :=
        .separated (List.forall_mem_map.2 fun q _ => q.colonsDoubled)
      have hopen : ColonsDoubled ['<'] := .of_not_mem (by decide)
      have hclose : ColonsDoubled ['>'] := .of_not_mem (by decide)
      exact hopen.append (harguments.append hclose)
  · rw [valueChars]
    cases u.values? <;> simp

/-! ### The names of a usage -/

theorem upToClosingAngle_append {tail : List Char} (h : '>' ∉ tail) (cs : List Char) :
    upToClosingAngle (cs ++ '>' :: tail) = cs := by
  have hdrop : dropEndWhile (· != '>') (cs ++ '>' :: tail) = cs ++ ['>'] := by
    have htail : ∀ c ∈ tail.reverse, (c != '>') = true := fun c hc =>
      bne_iff_ne.2 fun heq => h (heq ▸ List.mem_reverse.1 hc)
    rw [dropEndWhile, List.reverse_append, List.reverse_cons, List.append_assoc,
      List.dropWhile_append_of_pos htail]
    simp
  rw [upToClosingAngle, if_pos (by simp), hdrop, List.dropLast_concat]

theorem flatMap_typeNames_names (names : List QualifiedName) :
    (names.map QualifiedName.chars).flatMap typeNames = keptNames names := by
  induction names with
  | nil => rfl
  | cons q names ih =>
    rw [List.map_cons, List.flatMap_cons, ih, typeNames_name, ← keptNames_append]
    rfl

theorem typeNames_head (u : AttributeUsage) :
    typeNames (canonicalAttribute u.head) = keptNames (u.arguments ++ [u.read]) := by
  by_cases hempty : u.arguments = []
  · have hhead : u.head = u.name.chars := by
      rw [head, argumentChars, if_pos hempty, List.append_nil]
    rw [hhead, ← QualifiedName.chars_canonical, typeNames_name, hempty, read, if_pos hempty]
    rfl
  · have hhead : u.head = u.name.chars ++ ('<' ::
        (separated (u.arguments.map QualifiedName.chars) ++ ['>'])) := by
      rw [head, argumentChars, if_neg hempty]
    have hsuffix : ¬ attributeEnding <:+ u.head := by
      rintro ⟨front, hfront⟩
      have hlast := congrArg List.getLast? hfront
      rw [hhead, attributeEnding_eq, ← List.append_assoc, List.getLast?_concat,
        ← List.cons_append, ← List.append_assoc, List.getLast?_concat] at hlast
      exact absurd (Option.some.inj hlast) (by decide)
    have hunranked := not_mem_separated u.itemText_of_mem
    have htail : (separated (u.arguments.map QualifiedName.chars) ++ ['>']) ++ attributeEnding =
        (separated (u.arguments.map QualifiedName.chars) ++
          ('>' :: ['A', 't', 't', 'r', 'i', 'b', 'u', 't'])) ++ ['e'] := by
      rw [attributeEnding_eq]
      simp
    have hfree : '[' ∉ (separated (u.arguments.map QualifiedName.chars) ++
        ('>' :: ['A', 't', 't', 'r', 'i', 'b', 'u', 't'])) ++ ['e'] := by
      rw [← htail]
      simp [hunranked, attributeEnding_eq]
    have hread := typeNames_open u.name rfl rfl hfree
    rw [← htail, List.append_assoc, List.singleton_append,
      upToClosingAngle_append (by rw [attributeEnding_eq]; decide),
      splitTopLevel_items u.itemText_of_mem, flatMap_typeNames_names, ← keptNames_append] at hread
    rw [canonicalAttribute, if_neg fun h => hsuffix (List.isSuffixOf_iff_suffix.1 h), hhead, read,
      if_neg hempty, List.append_assoc, List.cons_append, List.append_assoc, List.singleton_append]
    exact hread

theorem attributeNames_chars (u : AttributeUsage) :
    attributeNames u.chars = keptNames (u.arguments ++ [u.read]) := by
  have hsplit : splitTopLevel u.chars = [u.chars] := by
    rw [splitTopLevel_of_sealed u.sealed_chars, u.trimmed_chars.trim_eq]
    simp [u.trimmed_chars.ne_nil]
  rw [attributeNames, hsplit, List.flatMap_singleton, attributeUsageNames, withoutTarget_chars,
    takeWhile_chars, u.trimmed_head.trim_eq, typeNames_head]
  simp [u.trimmed_head.ne_nil]

/-! ### Lines with a usage -/

end AttributeUsage

/-- White space within a line. -/
structure Margin where
  chars : List Char
  blank : ∀ c ∈ chars, isBlank c = true
  free : '\n' ∉ chars

namespace AttributeUsage
variable (u : AttributeUsage) (indent trailing : Margin)

/-- A line with the usage in brackets and nothing else. -/
def line : List Char := indent.chars ++ '[' :: (u.chars ++ ']' :: trailing.chars)

theorem sectionAt_line : SectionAt (u.line indent trailing) indent.chars u.chars trailing.chars :=
  ⟨rfl, indent.blank, u.trimmed_chars.ne_nil, u.outside_of_mem⟩

theorem not_mem_line : '\n' ∉ u.line indent trailing := by
  have hinside := (u.sectionAt_line indent trailing).not_mem_of_line
  simp only [List.mem_cons, not_or] at hinside
  simp [line, indent.free, trailing.free, hinside.2]

theorem withoutByteOrderMark_line :
    withoutByteOrderMark (u.line indent trailing) = u.line indent trailing := by
  refine withoutByteOrderMark_eq_self fun hmark => ?_
  have hfirst : isBlank '\ufeff' = true ∨ '\ufeff' = '[' := by
    rw [line, List.head?_append] at hmark
    cases hindent : indent.chars with
    | nil =>
      rw [hindent] at hmark
      exact .inr (Option.some.inj hmark).symm
    | cons c cs =>
      rw [hindent] at hmark
      exact .inl (indent.blank _ (hindent ▸ Option.some.inj hmark ▸ List.mem_cons_self))
  exact absurd hfirst (by decide)

theorem directives_line : directives (u.line indent trailing) = .empty := by
  refine directives_eq_empty (u.not_mem_line indent trailing) fun gap word gap' c rest h => ?_
  have hbehind := (u.sectionAt_line indent trailing).behind_gap
  rw [h.text, List.dropWhile_append_of_pos h.blank] at hbehind
  have hword : word = "global" ∨ word = "using" := by simpa using h.word
  rcases hword with rfl | rfl
  · exact absurd (List.cons.inj hbehind).1 (by decide)
  · exact absurd (List.cons.inj hbehind).1 (by decide)

theorem mem_namesIn_line {name : String} :
    name ∈ Rule.attributes.namesIn (u.line indent trailing) ↔
      name ∈ keptNames (u.arguments ++ [u.read]) := by
  have halone : Between '\n' (u.line indent trailing) [] (u.line indent trailing) [] :=
    ⟨by simp, u.not_mem_line indent trailing, by simp, by simp⟩
  have hnil : name ∉ Rule.attributes.namesIn [] := by
    have hnone : Rule.attributes.namesIn [] = [] := by decide
    rw [hnone]
    exact List.not_mem_nil
  rw [mem_namesIn_attributes_between halone (u.sectionAt_line indent trailing),
    u.attributeNames_chars, or_iff_right hnil, or_iff_left hnil]

theorem mem_attributes_line {config : ExtractionConfig}
    (henabled : config.isEnabled .attributes = true) {name : String} :
    name ∈ (classify config (u.line indent trailing)).attributes ↔
      name ∈ keptNames (u.arguments ++ [u.read]) := by
  have hdirectives :
      directives (withoutByteOrderMark (u.line indent trailing)) = .empty := by
    rw [withoutByteOrderMark_line, directives_line]
  have hslot : name ∈ (classify config (u.line indent trailing)).slot .attributes ↔
      config.isEnabled .attributes = true ∧
        name ∈ Rule.attributes.namesIn (withoutByteOrderMark (u.line indent trailing)) :=
    mem_slot_classify_iff hdirectives
  rw [withoutByteOrderMark_line, mem_namesIn_line, and_iff_right henabled] at hslot
  exact hslot

theorem read_long : u.long.read = u.name.withEnding := by
  rw [read]
  split
  · exact u.name.canonical_withEnding
  · rfl

end AttributeUsage

/-! ## The spellings of a usage -/

theorem mem_keptNames_iff {names : List QualifiedName} {name : String} :
    name ∈ keptNames names ↔
      (∃ q ∈ names, q.withoutRoot.text = name) ∧ isFiltered name = false := by
  rw [keptNames, List.mem_filter, List.mem_map, Bool.not_eq_true']

theorem not_mem_keptNames_withEnding {q : QualifiedName} {name : String}
    (h : name ∈ keptNames [q]) : name ∉ keptNames [q.withEnding] := by
  intro h'
  simp only [mem_keptNames_iff, List.mem_singleton, exists_eq_left] at h h'
  rw [q.withoutRoot_withEnding, ← h.1] at h'
  exact q.withoutRoot.text_withEnding_ne h'.1

/-- A usage whose name lacks the ending, alone on a line, against the same usage with the ending. With
the ending, its arguments and the name of the class are read. Without it, the same is read if there
are no generic arguments; behind generic arguments the name is read as it is written. So the
spellings agree without generic arguments, and else only if neither name makes a difference. -/
theorem attributes_spellings (u : AttributeUsage) (hname : ¬ attributeEnding <:+ u.name.chars)
    {config : ExtractionConfig} (henabled : config.isEnabled .attributes = true)
    (indent trailing : Margin) :
    let short := (classify config (u.line indent trailing)).attributes
    let long := (classify config (u.long.line indent trailing)).attributes
    (∀ name, name ∈ long ↔ name ∈ keptNames (u.arguments ++ [u.name.withEnding])) ∧
      (∀ name, name ∈ short ↔ name ∈ keptNames
        (u.arguments ++ [if u.arguments = [] then u.name.withEnding else u.name])) ∧
      ((∀ name, name ∈ short ↔ name ∈ long) ↔ u.arguments = [] ∨
        ∀ name, name ∈ keptNames [u.name] ∨ name ∈ keptNames [u.name.withEnding] →
          name ∈ keptNames u.arguments) := by
  intro short long
  have hlong (name : String) :
      name ∈ long ↔ name ∈ keptNames (u.arguments ++ [u.name.withEnding]) := by
    rw [← u.read_long]
    exact u.long.mem_attributes_line indent trailing henabled
  have hshort (name : String) : name ∈ short ↔ name ∈ keptNames
      (u.arguments ++ [if u.arguments = [] then u.name.withEnding else u.name]) := by
    rw [← QualifiedName.canonical_of_not_suffix hname]
    exact u.mem_attributes_line indent trailing henabled
  refine ⟨hlong, hshort, ?_⟩
  simp only [hshort, hlong]
  by_cases hempty : u.arguments = []
  · simp [hempty]
  · simp only [hempty, false_or, keptNames_append, List.mem_append]
    constructor
    · rintro hagree name (hwritten | hcanonical)
      · exact ((hagree name).1 (.inr hwritten)).resolve_right
          (not_mem_keptNames_withEnding hwritten)
      · exact ((hagree name).2 (.inr hcanonical)).resolve_right fun hwritten =>
          not_mem_keptNames_withEnding hwritten hcanonical
    · intro hinside name
      exact ⟨fun h => .inl (h.elim id fun hwritten => hinside name (.inl hwritten)),
        fun h => .inl (h.elim id fun hcanonical => hinside name (.inr hcanonical))⟩

/-! ### A usage with a generic argument -/

def rangeName : QualifiedName :=
  ⟨⟨'R', ['a', 'n', 'g', 'e'], rfl, List.all_eq_true.1 (by decide +kernel)⟩, []⟩

theorem isNameStart_itemArgument : isNameStart 'I' = true := rfl

theorem isWord_itemArgument : ∀ c ∈ ['t', 'e', 'm'], isWord c = true :=
  List.all_eq_true.1 (by decide)

def itemArgument : QualifiedName :=
  ⟨⟨'I', ['t', 'e', 'm'], isNameStart_itemArgument, isWord_itemArgument⟩, []⟩

def noMargin : Margin := ⟨[], List.forall_mem_nil _, List.not_mem_nil⟩

/-- The usage `Range<Item>(0, 9)`. -/
def rangeUsage : AttributeUsage :=
  ⟨rangeName, [itemArgument], some ⟨['0', ',', ' ', '9'],
    .of_forall (by simp [bracketStep]), by simp [Pattern.outside]⟩⟩

theorem attributes_spellings_rangeUsage :
    ¬ attributeEnding <:+ rangeUsage.name.chars ∧
      ExtractionConfig.standard.isEnabled .attributes = true ∧
      "Range" ∈ (classify .standard (rangeUsage.line noMargin noMargin)).attributes ∧
      "RangeAttribute" ∈
        (classify .standard (rangeUsage.long.line noMargin noMargin)).attributes := by
  have hname : ¬ attributeEnding <:+ rangeUsage.name.chars := by decide
  have henabled : ExtractionConfig.standard.isEnabled .attributes = true := rfl
  obtain ⟨hlong, hshort, -⟩ := attributes_spellings rangeUsage hname henabled noMargin noMargin
  exact ⟨hname, henabled, (hshort _).2 (by decide), (hlong _).2 (by decide)⟩

theorem genericUsage_lacks_ending :
    isFiltered "RangeAttribute" = false ∧
      "RangeAttribute" ∈ (classify .standard "[RangeAttribute<Item>]".toList).attributes ∧
      "RangeAttribute" ∉ (classify .standard "[Range<Item>]".toList).attributes := by
  have hlong : "[RangeAttribute<Item>]".toList =
      AttributeUsage.line ⟨rangeName.withEnding, [itemArgument], none⟩ noMargin noMargin := by
    decide
  have hshort : "[Range<Item>]".toList =
      AttributeUsage.line ⟨rangeName, [itemArgument], none⟩ noMargin noMargin := by decide
  rw [hlong, hshort, AttributeUsage.mem_attributes_line _ _ _ rfl,
    AttributeUsage.mem_attributes_line _ _ _ rfl]
  decide

end RefAtlas.Reference
