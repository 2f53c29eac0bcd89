import Mathlib.Data.List.Infix
import RefAtlas.Proofs.Reference.InnerTypes
import RefAtlas.Proofs.Reference.Parameters
import RefAtlas.Proofs.Text.Slice

/-! # Readings of types that may fail

The readings of types once more, with every piece taken between two byte offsets that were found on
the way, and with names added behind those that are there. Such a reading fails

* if an offset lies behind its text or inside a character, or two offsets are in the wrong order;
* if it goes on with a text that is not a strictly shorter piece of the one it is at.

Neither happens on any text.

* `readWith?`, `readNames?`: one step of the reading, and the reading as a whole.
* `readWith?_step`: a step goes on with the types inside, and with nothing else.
* `readNames?_eq`: the reading adds the names that `typeNames` finds.
* `readNames?_safe`: what is read, and from where.
-/

namespace RefAtlas.Reference
open RefAtlas.Text
open String (utf8Len)
set_option autoImplicit false

/-! ## The readings -/

def withoutArraySuffix? (cs : List Char) : Option (List Char) :=
  match offsetOf? (· == '[') cs with
  | some bracket => (slice? cs 0 bracket).map trimEnd
  | none => some cs

/-- The pieces of a text between the commas at depth zero. The piece in hand begins at `start`, and
what is left of the text begins at `here`. -/
def trimmedPieces? (text : List Char) : (depth : Int) → (start here : Nat) → (rest : List Char) →
    Option (List (List Char))
  | _, start, _, [] => (slice? text start (utf8Len text)).map fun last => [trim last]
  | depth, start, here, c :: rest =>
    if c == ',' && depth == 0 then
      (slice? text start here).bind fun piece =>
        (trimmedPieces? text depth (here + 1) (here + c.utf8Size) rest).map (trim piece :: ·)
    else trimmedPieces? text (depth + bracketStep c) start (here + c.utf8Size) rest

def splitTopLevel? (cs : List Char) : Option (List (List Char)) :=
  (trimmedPieces? cs 0 0 0 cs).map fun parts => parts.filter fun part => !part.isEmpty

/-- What follows the bracketed sections at the start of a text; nothing if one does not end. -/
def afterSections? (cs : List Char) : Option (List Char) :=
  if cs.head? = some '[' then
    match offsetOf? (· == ']') cs with
    | some bracket =>
      (slice? cs (bracket + 1) (utf8Len cs)).bind fun rest =>
        if _h : (trimStart rest).length < cs.length then afterSections? (trimStart rest) else none
    | none => some []
  else some cs
termination_by cs.length
decreasing_by exact _h

def afterModifiers? (cs : List Char) : Option (List Char) :=
  let wordEnd := (offsetOf? isBlank cs).getD (utf8Len cs)
  (slice? cs 0 wordEnd).bind fun word =>
    if parameterModifiers.contains (String.ofList word) && wordEnd < utf8Len cs then
      (slice? cs wordEnd (utf8Len cs)).bind fun rest =>
        if _h : (trimStart rest).length < cs.length then afterModifiers? (trimStart rest) else none
    else some cs
termination_by cs.length
decreasing_by exact _h

/-- The type at the start of a text of which all in front of `here` has been looked at. -/
def typeInFront? (text : List Char) : (depth : Int) → (here : Nat) → (rest : List Char) →
    Option (List Char)
  | _, _, [] => some (trim text)
  | depth, here, c :: rest =>
    if isBlank c && depth == 0 then
      (slice? text here (utf8Len text)).bind fun tail =>
        if continuesType tail then typeInFront? text depth (here + c.utf8Size) rest
        else (slice? text 0 here).map trim
    else typeInFront? text (depth + bracketStep c) (here + c.utf8Size) rest

def leadingType? (cs : List Char) : Option (List Char) :=
  (afterSections? (trim cs)).bind fun rest =>
    (afterModifiers? rest).bind fun rest => typeInFront? rest 0 0 rest

/-- The arguments of a generic type whose first opening angle bracket is at `opening`. -/
def arguments? (cs : List Char) (opening : Nat) : Option (List Char) :=
  match lastOffsetOf? (· == '>') cs with
  | some closing =>
    if opening < closing then slice? cs (opening + 1) closing
    else slice? cs (opening + 1) (utf8Len cs)
  | none => slice? cs (opening + 1) (utf8Len cs)

/-- Adds the names of a type, where `go` adds those of the types inside it. -/
def readWith? (go : List Char → List String → Option (List String)) (cs : List Char)
    (names : List String) : Option (List String) :=
  (withoutArraySuffix? (trim cs)).bind fun token =>
    let bare := trim (dropEndWhile (· == '?') token)
    if bare.isEmpty then some names
    else match tupleBody? bare with
    | some body =>
      (splitTopLevel? body).bind fun parts =>
        parts.foldlM (fun names part => (leadingType? part).bind fun type => go type names) names
    | none =>
      match offsetOf? (· == '<') bare with
      | some opening =>
        (slice? bare 0 opening).bind fun base =>
          (arguments? bare opening).bind fun arguments =>
            (splitTopLevel? arguments).bind fun parts =>
              (parts.foldlM (fun names part => go part names) names).map
                (· ++ keptName (trim base))
      | none => some (names ++ keptName bare)

/-- Adds the names of a type inside another one, if it is a strictly shorter piece of that. -/
def readInside? (outer cs : List Char) (names : List String) : Option (List String) :=
  if _h : cs <:+: outer ∧ cs.length < outer.length then readWith? (readInside? cs) cs names
  else none
termination_by outer.length
decreasing_by exact _h.2

def readNames? (cs : List Char) (names : List String) : Option (List String) :=
  readWith? (readInside? cs) cs names

/-! ## Steps that never fail -/

section Steps
variable {front : List Char} {d : Char}

theorem forall_mem_beq_eq_false (h : d ∉ front) : ∀ c ∈ front, (c == d) = false :=
  fun _ hc => beq_false_of_ne fun heq => h (heq ▸ hc)

theorem forall_mem_bne_eq_true (h : d ∉ front) : ∀ c ∈ front, (c != d) = true :=
  fun _ hc => bne_iff_ne.2 fun heq => h (heq ▸ hc)

theorem takeWhile_append_cons (h : d ∉ front) (back : List Char) :
    (front ++ d :: back).takeWhile (· != d) = front := by
  rw [List.takeWhile_append_of_pos (forall_mem_bne_eq_true h), List.takeWhile_cons_of_neg (by simp),
    List.append_nil]

theorem dropWhile_append_cons (h : d ∉ front) (back : List Char) :
    (front ++ d :: back).dropWhile (· != d) = d :: back := by
  rw [List.dropWhile_append_of_pos (forall_mem_bne_eq_true h),
    List.dropWhile_cons_of_neg (by simp)]

theorem withoutArraySuffix?_eq (cs : List Char) :
    withoutArraySuffix? cs = some (withoutArraySuffix cs) := by
  unfold withoutArraySuffix?
  by_cases hmem : '[' ∈ cs
  · obtain ⟨front, back, rfl, hfront⟩ := List.eq_append_cons_of_mem hmem
    rw [offsetOf?_append (forall_mem_beq_eq_false hfront) (beq_self_eq_true _)]
    dsimp only
    rw [slice?_front, Option.map_some, withoutArraySuffix, if_pos (by simp),
      takeWhile_append_cons hfront]
  · rw [offsetOf?_eq_none (forall_mem_beq_eq_false hmem), withoutArraySuffix_of_not_mem hmem]

theorem modifyHead_nil_append (pieces : List (List Char)) :
    pieces.modifyHead ([] ++ ·) = pieces := congrFun List.modifyHead_id _

theorem trimmedPieces?_eq (depth : Int) (before piece rest : List Char) :
    trimmedPieces? (before ++ (piece ++ rest)) depth (utf8Len before)
        (utf8Len before + utf8Len piece) rest =
      some (((topLevelPieces depth rest).modifyHead (piece ++ ·)).map trim) := by
  induction rest generalizing depth before piece with
  | nil =>
    rw [List.append_nil, trimmedPieces?, slice?_back, topLevelPieces, List.modifyHead_cons,
      List.append_nil]
    rfl
  | cons c rest ih =>
    by_cases hcut : (c == ',' && depth == 0) = true
    · obtain rfl : c = ',' := eq_of_beq (Bool.and_eq_true_iff.1 hcut).1
      -- The next piece is empty and begins behind the comma.
      have hrest := ih depth (before ++ piece ++ [',']) []
      have htext : before ++ piece ++ [','] ++ ([] ++ rest) = before ++ (piece ++ ',' :: rest) := by
        simp
      rw [htext, utf8Len_concat, String.utf8Len_append, modifyHead_nil_append] at hrest
      rw [trimmedPieces?, if_pos hcut, slice?_append, Option.bind_some, topLevelPieces, if_pos hcut,
        List.modifyHead_cons, List.append_nil, List.map_cons]
      exact congrArg (Option.map _) hrest
    · have hgoes : depth = 0 → (c == ',') = false := fun hdepth =>
        Bool.eq_false_iff.2 fun hcomma =>
          hcut (Bool.and_eq_true_iff.2 ⟨hcomma, beq_iff_eq.2 hdepth⟩)
      have hrest := ih (depth + bracketStep c) before (piece ++ [c])
      have hpush : ((piece ++ ·) ∘ (c :: ·) : List Char → List Char) = (piece ++ [c] ++ ·) :=
        funext fun text => (List.append_assoc piece [c] text).symm
      rw [List.append_assoc, List.singleton_append, utf8Len_concat, ← Nat.add_assoc] at hrest
      rw [trimmedPieces?, if_neg hcut, hrest, topLevelPieces_cons hgoes, List.modifyHead_modifyHead,
        hpush]

theorem splitTopLevel?_eq (cs : List Char) : splitTopLevel? cs = some (splitTopLevel cs) := by
  have hpieces := trimmedPieces?_eq 0 [] [] cs
  rw [modifyHead_nil_append] at hpieces
  exact congrArg (Option.map _) hpieces

theorem afterSections_trimStart (cs : List Char) :
    afterSections false (trimStart cs) = afterSections false cs := by
  have hblank : ∀ c ∈ cs.takeWhile isBlank, isBlank c = true := fun _ => List.mem_takeWhile_imp
  have hskip := afterSections_blank hblank (trimStart cs)
  rw [trimStart, List.takeWhile_append_dropWhile] at hskip
  exact hskip.symm

theorem afterSections_section {body : List Char} (h : ']' ∉ body) (rest : List Char) :
    afterSections false ('[' :: body ++ ']' :: rest) = afterSections false (trimStart rest) := by
  rw [afterSections_trimStart]
  exact afterSections_inside h rest

theorem afterSections_unclosed {body : List Char} (h : ']' ∉ body) :
    afterSections true body = [] := by
  induction body with
  | nil => rfl
  | cons c body ih =>
    have hc : c ≠ ']' := fun heq => h (heq ▸ List.mem_cons_self)
    rw [afterSections, bne_iff_ne.2 hc, ih fun hmem => h (List.mem_cons_of_mem c hmem)]

theorem afterSections?_eq {cs : List Char} (h : ∀ c ∈ cs.head?, isBlank c = false) :
    afterSections? cs = some (afterSections false cs) := by
  induction hn : cs.length using Nat.strong_induction_on generalizing cs with
  | _ n ih =>
    rw [afterSections?]
    split
    · rename_i hopen
      obtain ⟨body, rfl⟩ := List.head?_eq_some_iff.1 hopen
      by_cases hmem : ']' ∈ body
      · obtain ⟨inner, rest, rfl, hinner⟩ := List.eq_append_cons_of_mem hmem
        have hfront : ∀ c ∈ '[' :: inner, (c == ']') = false :=
          List.forall_mem_cons.2 ⟨rfl, forall_mem_beq_eq_false hinner⟩
        have hshorter : (trimStart rest).length < n := by
          have hrest := (trimStart_isSuffix rest).length_le
          rw [← hn, List.length_cons, List.length_append, List.length_cons]
          omega
        have hgoes := ih _ hshorter (fun _ => isBlank_of_head?_trimStart) rfl
        have hbehind : slice? ('[' :: inner ++ ']' :: rest) (utf8Len ('[' :: inner) + 1)
            (utf8Len ('[' :: inner ++ ']' :: rest)) = some rest := slice?_behind (by decide) _ _
        rw [← List.cons_append, offsetOf?_append hfront (beq_self_eq_true _)]
        simp only [hbehind, Option.bind_some]
        rw [dif_pos (hn ▸ hshorter), hgoes, afterSections_section hinner]
      · rw [offsetOf?_eq_none (List.forall_mem_cons.2 ⟨rfl, forall_mem_beq_eq_false hmem⟩)]
        exact congrArg some (afterSections_unclosed hmem).symm
    · rename_i hclosed
      cases cs with
      | nil => rfl
      | cons c cs =>
        rw [afterSections_cons (h c rfl) fun heq => hclosed (congrArg some heq)]

theorem firstWord_append_afterFirstWord (cs : List Char) :
    firstWord cs ++ afterFirstWord cs = cs := List.takeWhile_append_dropWhile

theorem slice?_firstWord (cs : List Char) :
    slice? cs 0 (utf8Len (firstWord cs)) = some (firstWord cs) :=
  slice?_eq_some_iff.2
    ⟨[], afterFirstWord cs, (firstWord_append_afterFirstWord cs).symm, rfl, Nat.zero_add _⟩

theorem slice?_afterFirstWord (cs : List Char) :
    slice? cs (utf8Len (firstWord cs)) (utf8Len cs) = some (afterFirstWord cs) := by
  have hback := slice?_back (firstWord cs) (afterFirstWord cs)
  rwa [firstWord_append_afterFirstWord] at hback

theorem utf8Len_firstWord_lt_iff (cs : List Char) :
    utf8Len (firstWord cs) < utf8Len cs ↔ afterFirstWord cs ≠ [] := by
  have hlength := String.utf8Len_append (firstWord cs) (afterFirstWord cs)
  rw [firstWord_append_afterFirstWord] at hlength
  rw [hlength, Nat.lt_add_right_iff_pos, Nat.pos_iff_ne_zero, ne_eq, String.utf8Len_eq_zero]

theorem afterModifiers?_eq (cs : List Char) : afterModifiers? cs = some (afterModifiers cs) := by
  induction hn : cs.length using Nat.strong_induction_on generalizing cs with
  | _ n ih =>
    have hend : (offsetOf? isBlank cs).getD (utf8Len cs) = utf8Len (firstWord cs) :=
      getD_offsetOf? isBlank cs
    have hgoes : (parameterModifiers.contains (String.ofList (firstWord cs)) &&
        decide (utf8Len (firstWord cs) < utf8Len cs)) = true ↔
        parameterModifiers.contains (String.ofList (firstWord cs)) = true ∧
          afterFirstWord cs ≠ [] := by
      rw [Bool.and_eq_true, decide_eq_true_iff, utf8Len_firstWord_lt_iff]
    rw [afterModifiers?, afterModifiers, hend]
    simp only [slice?_firstWord, slice?_afterFirstWord, Option.bind_some]
    by_cases h : parameterModifiers.contains (String.ofList (firstWord cs)) = true ∧
        afterFirstWord cs ≠ []
    · have hshorter := length_trimStart_afterFirstWord_lt h.2
      rw [if_pos (hgoes.2 h), dif_pos h, dif_pos hshorter, ih _ (hn ▸ hshorter) _ rfl]
    · rw [if_neg (mt hgoes.1 h), dif_neg h]

theorem typeInFront?_eq (depth : Int) (before rest : List Char) :
    typeInFront? (before ++ rest) depth (utf8Len before) rest =
      some (trim (before ++ typeSpan depth rest)) := by
  induction rest generalizing depth before with
  | nil => rfl
  | cons c rest ih =>
    have hrest : ∀ depth, typeInFront? (before ++ c :: rest) depth (utf8Len before + c.utf8Size)
        rest = some (trim (before ++ c :: typeSpan depth rest)) := by
      intro depth
      have hrest := ih depth (before ++ [c])
      rwa [List.append_assoc, List.singleton_append, utf8Len_concat, List.append_assoc,
        List.singleton_append] at hrest
    rw [typeInFront?, typeSpan]
    by_cases hblank : (isBlank c && depth == 0) = true
    · rw [if_pos hblank, slice?_back, Option.bind_some, slice?_front, hblank, Bool.true_and]
      by_cases hgoes : continuesType (c :: rest) = true
      · have hstep : bracketStep c = 0 := bracketStep_of_isBlank (Bool.and_eq_true_iff.1 hblank).1
        rw [if_pos hgoes, hrest, hgoes, if_neg (by decide), hstep, Int.add_zero]
      · rw [if_neg hgoes, if_pos (by simpa using hgoes), List.append_nil]
        rfl
    · rw [if_neg hblank, hrest, if_neg (fun hends => hblank (Bool.and_eq_true_iff.1 hends).1)]

theorem leadingType?_eq (cs : List Char) : leadingType? cs = some (leadingType cs) := by
  rw [leadingType?, afterSections?_eq fun _ => isBlank_of_head?_trim, Option.bind_some,
    afterModifiers?_eq, Option.bind_some]
  exact typeInFront?_eq 0 [] _

theorem arguments?_eq (base rest : List Char) :
    arguments? (base ++ '<' :: rest) (utf8Len base) = some (upToClosingAngle rest) := by
  rw [arguments?]
  by_cases hmem : '>' ∈ rest
  · obtain ⟨front, back, rfl, hback⟩ := exists_last_of_mem hmem
    have hopened : utf8Len (base ++ ['<']) = utf8Len base + 1 := utf8Len_concat base '<'
    have hlast : lastOffsetOf? (· == '>') (base ++ '<' :: (front ++ '>' :: back)) =
        some (utf8Len base + 1 + utf8Len front) := by
      have hlast := lastOffsetOf?_append (p := fun c => c == '>') (beq_self_eq_true _)
        (forall_mem_beq_eq_false hback) (base ++ ['<'] ++ front)
      rw [String.utf8Len_append, hopened] at hlast
      simpa using hlast
    have hslice := slice?_append (base ++ ['<']) front ('>' :: back)
    rw [hopened, List.append_assoc, List.singleton_append] at hslice
    rw [hlast, upToClosingAngle_append_cons hback]
    exact (if_pos (by omega)).trans hslice
  · have hnone : ∀ c ∈ '<' :: rest, (c == '>') = false :=
      List.forall_mem_cons.2 ⟨rfl, forall_mem_beq_eq_false hmem⟩
    rw [lastOffsetOf?_append_of_forall hnone, slice?_behind (by decide),
      upToClosingAngle_of_not_mem hmem]
    cases hlast : lastOffsetOf? (· == '>') base with
    | none => rfl
    | some closing => exact if_neg (Nat.lt_asymm (lt_of_lastOffsetOf? hlast))

end Steps

/-! ## The whole reading -/

theorem genericParts?_append_cons {base : List Char} (h : '<' ∉ base) (rest : List Char) :
    genericParts? (base ++ '<' :: rest) = some (trim base, upToClosingAngle rest) := by
  rw [genericParts?, dropWhile_append_cons h, takeWhile_append_cons h]

theorem genericParts?_of_not_mem {cs : List Char} (h : '<' ∉ cs) : genericParts? cs = none := by
  rw [genericParts?, List.dropWhile_eq_nil_iff.2 (forall_mem_bne_eq_true h)]

theorem foldlM_append {α β : Type} {f : List β → α → Option (List β)} {g : α → List β}
    {l : List α} (h : ∀ a ∈ l, ∀ out, f out a = some (out ++ g a)) (out : List β) :
    l.foldlM f out = some (out ++ l.flatMap g) := by
  induction l generalizing out with
  | nil => exact congrArg some (List.append_nil out).symm
  | cons a l ih =>
    obtain ⟨ha, hl⟩ := List.forall_mem_cons.1 h
    rw [List.foldlM_cons, ha out, List.flatMap_cons, ← List.append_assoc]
    exact ih hl _

theorem keptName_nil : keptName [] = [] := rfl

/-- One step goes on with the types inside, one after the other, and then adds the name of the type
itself. -/
theorem readWith?_step (go : List Char → List String → Option (List String)) (cs : List Char)
    (names : List String) : readWith? go cs names =
      ((innerTypes cs).foldlM (fun names inner => go inner names) names).map
        (· ++ keptName (ownText cs)) := by
  have hbare : trim (dropEndWhile (· == '?') (withoutArraySuffix (trim cs))) = bareType cs := rfl
  unfold readWith? innerTypes ownText
  rw [withoutArraySuffix?_eq, Option.bind_some]
  dsimp only
  rw [hbare]
  cases hbody : tupleBody? (bareType cs) with
  | some body =>
    have hne : ¬ (bareType cs).isEmpty = true := by
      rw [eq_of_tupleBody? hbody]
      exact Bool.false_ne_true
    rw [if_neg hne]
    dsimp only
    rw [splitTopLevel?_eq, Option.bind_some, List.foldlM_map, keptName_nil]
    simp only [leadingType?_eq, Option.bind_some, List.append_nil, Option.map_id']
  | none =>
    by_cases hangle : '<' ∈ bareType cs
    · obtain ⟨base, rest, hsplit, hbase⟩ := List.eq_append_cons_of_mem hangle
      rw [if_neg (by simp [hsplit]), hsplit, genericParts?_append_cons hbase,
        offsetOf?_append (forall_mem_beq_eq_false hbase) (beq_self_eq_true _)]
      dsimp only
      rw [slice?_front, Option.bind_some, arguments?_eq, Option.bind_some, splitTopLevel?_eq,
        Option.bind_some]
    · rw [genericParts?_of_not_mem hangle, offsetOf?_eq_none (forall_mem_beq_eq_false hangle)]
      dsimp only
      split
      · rename_i hempty
        rw [List.isEmpty_iff.1 hempty, keptName_nil]
        exact congrArg some (List.append_nil names).symm
      · rfl

theorem readWith?_eq {go : List Char → List String → Option (List String)} {cs : List Char}
    (h : ∀ inner ∈ innerTypes cs, ∀ names, go inner names = some (names ++ typeNames inner))
    (names : List String) : readWith? go cs names = some (names ++ typeNames cs) := by
  rw [readWith?_step, foldlM_append h, Option.map_some, List.append_assoc, ← typeNames_eq_append]

theorem readInside?_eq {outer cs : List Char} (h : cs <:+: outer ∧ cs.length < outer.length)
    (names : List String) : readInside? outer cs names = some (names ++ typeNames cs) := by
  induction cs using innerTypes_induction generalizing outer names with
  | h cs ih =>
    rw [readInside?, dif_pos h]
    refine readWith?_eq (fun inner hinner names => ?_) names
    exact ih inner hinner ⟨innerTypes_isInfix hinner, length_lt_of_mem_innerTypes hinner⟩ names

theorem readNames?_eq (cs : List Char) (names : List String) :
    readNames? cs names = some (names ++ typeNames cs) :=
  readWith?_eq (fun _ hinner names =>
    readInside?_eq ⟨innerTypes_isInfix hinner, length_lt_of_mem_innerTypes hinner⟩ names) names

/-- Whatever the text of a type is, its reading does not fail: it takes no piece that is not there, goes
on with the types inside, which are strictly shorter pieces of the text, and leaves the names in front
as they are. What it adds are names that are no keywords and no common types. They stand in the text
without overlaps, so together they are not longer than it. -/
theorem readNames?_safe (cs : List Char) (names : List String) :
    readNames? cs names = some (names ++ typeNames cs) ∧
    (∀ go, readWith? go cs names = ((innerTypes cs).foldlM (fun names inner => go inner names)
      names).map (· ++ keptName (ownText cs))) ∧
    (∀ inner ∈ innerTypes cs, inner <:+: cs ∧ inner.length < cs.length) ∧
    (∀ name ∈ typeNames cs, name ≠ "" ∧ (∃ q : QualifiedName, q.text = name) ∧
      isFiltered name = false ∧ name.toList <:+: cs) ∧
    Apart ((typeNames cs).map String.toList) cs ∧
    ((typeNames cs).map String.length).sum ≤ cs.length ∧
    ((typeNames cs).map String.utf8ByteSize).sum ≤ utf8Len cs := by
  have hapart := apart_typeNames cs
  refine ⟨readNames?_eq cs names, fun go => readWith?_step go cs names,
    fun _ hinner => ⟨innerTypes_isInfix hinner, length_lt_of_mem_innerTypes hinner⟩,
    fun name hname => ?_, hapart, ?_, ?_⟩
  · obtain ⟨q, rfl⟩ := exists_of_mem_typeNames hname
    exact ⟨q.text_ne_empty, ⟨q, rfl⟩, kept_typeNames cs _ hname,
      hapart.isInfix (List.mem_map_of_mem hname)⟩
  · have hsum : (((typeNames cs).map String.toList).map List.length).sum ≤ cs.length :=
      hapart.sum_le fun _ _ => List.length_append
    simpa only [List.map_map, Function.comp_def, String.length_toList] using hsum
  · have hsum : (((typeNames cs).map String.toList).map utf8Len).sum ≤ utf8Len cs :=
      hapart.sum_le String.utf8Len_append
    simpa only [List.map_map, Function.comp_def, String.utf8Len_toList] using hsum

/-- A list of arguments that does not end, with brackets in it that are closed and some that are not. -/
theorem readNames?_safe_openBrackets :
    let text := "Größe<Pool<Item, (Enemy)[".toList
    readNames? text ["Cart"] = some ["Cart", "Item", "Enemy", "Pool", "Größe"] ∧
      innerTypes text = ["Pool<Item, (Enemy)".toList] ∧
      (["Item", "Enemy", "Pool", "Größe"].map String.utf8ByteSize).sum ≤ utf8Len text := by
  intro text
  have hnames : typeNames text = ["Item", "Enemy", "Pool", "Größe"] := by decide +kernel
  obtain ⟨hread, -, -, -, -, -, hbytes⟩ := readNames?_safe text ["Cart"]
  rw [hnames] at hread hbytes
  exact ⟨hread, by decide, hbytes⟩

end RefAtlas.Reference
