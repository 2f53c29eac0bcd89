import RefAtlas.Reference.Filter

/-! # Names in the text of a type

The pieces of text that the rules find are not parsed: they may be unbalanced or cut off. The names
in them are found by three simple readings.

* `splitTopLevel`: the parts of a list between commas outside every bracket.
* `leadingType`: the type at the start of a parameter or of a tuple element.
* `typeNames`: the names of a type, arguments before the name they are given to. It reads ever
  shorter pieces of its text, so it ends on every text.
-/

namespace RefAtlas.Reference
open RefAtlas.Text
set_option autoImplicit false

/-! ## Parts between commas -/

def bracketStep (c : Char) : Int :=
  if c == '<' || c == '(' || c == '[' then 1
  else if c == '>' || c == ')' || c == ']' then -1
  else 0

/-- The pieces of a text between the commas at depth zero, from a given depth on. -/
def topLevelPieces : Int → List Char → List (List Char)
  | _, [] => [[]]
  | depth, c :: rest =>
    if c == ',' && depth == 0 then [] :: topLevelPieces depth rest
    else match topLevelPieces (depth + bracketStep c) rest with
      | piece :: pieces => (c :: piece) :: pieces
      | [] => [[c]]

/-- The parts of a list between commas outside every bracket, trimmed; empty parts are left out. -/
def splitTopLevel (cs : List Char) : List (List Char) :=
  ((topLevelPieces 0 cs).map trim).filter fun part => !part.isEmpty

/-! ## The type in front -/

def parameterModifiers : List String :=
  ["this", "ref", "out", "in", "params", "readonly", "scoped"]

/-- What follows the bracketed sections at the start of a text, and white space around them. -/
def afterSections : (inside : Bool) → List Char → List Char
  | _, [] => []
  | true, c :: rest => afterSections (c != ']') rest
  | false, c :: rest =>
    if c == '[' then afterSections true rest
    else if isBlank c then afterSections false rest
    else c :: rest

def firstWord (cs : List Char) : List Char := cs.takeWhile fun c => !isBlank c

def afterFirstWord (cs : List Char) : List Char := cs.dropWhile fun c => !isBlank c

theorem isBlank_of_afterFirstWord {cs rest : List Char} {c : Char}
    (h : afterFirstWord cs = c :: rest) : isBlank c = true := by
  induction cs with
  | nil => simp [afterFirstWord] at h
  | cons x xs ih =>
    by_cases hx : isBlank x = true
    · simp [afterFirstWord, hx] at h
      exact h.1 ▸ hx
    · simp only [afterFirstWord, List.dropWhile_cons, hx, Bool.not_false, if_true] at h
      exact ih h

theorem length_trimStart_afterFirstWord_lt {cs : List Char} (h : afterFirstWord cs ≠ []) :
    (trimStart (afterFirstWord cs)).length < cs.length := by
  match hc : afterFirstWord cs with
  | [] => exact absurd hc h
  | c :: rest =>
    have hle : (c :: rest).length ≤ cs.length := hc ▸ (List.dropWhile_suffix _).length_le
    have : (trimStart (c :: rest)).length ≤ rest.length := by
      simp only [trimStart, List.dropWhile_cons, isBlank_of_afterFirstWord hc, if_true]
      exact (List.dropWhile_suffix _).length_le
    rw [List.length_cons] at hle
    omega

/-- What follows the modifiers at the start of a text. A modifier with nothing behind it stays. -/
def afterModifiers (cs : List Char) : List Char :=
  if _h : parameterModifiers.contains (String.ofList (firstWord cs)) ∧ afterFirstWord cs ≠ [] then
    afterModifiers (trimStart (afterFirstWord cs))
  else cs
termination_by cs.length
decreasing_by exact length_trimStart_afterFirstWord_lt _h.2

def continuesType (cs : List Char) : Bool :=
  match trimStart cs with
  | c :: _ => c == '<' || c == '[' || c == '?'
  | [] => false

/-- The characters before the first white space at depth zero behind which the type is over. -/
def typeSpan : Int → List Char → List Char
  | _, [] => []
  | depth, c :: rest =>
    if isBlank c && depth == 0 && !continuesType (c :: rest) then []
    else c :: typeSpan (depth + bracketStep c) rest

def leadingType (cs : List Char) : List Char :=
  trim (typeSpan 0 (afterModifiers (afterSections false (trim cs))))

/-! ## The names of a type -/

def withoutArraySuffix (cs : List Char) : List Char :=
  if cs.contains '[' then trimEnd (cs.takeWhile (· != '[')) else cs

/-- The text of a type without array suffix and question marks at its end. -/
def bareType (cs : List Char) : List Char :=
  trim (dropEndWhile (· == '?') (withoutArraySuffix (trim cs)))

/-- The text between an opening parenthesis at the start and a closing one at the end. -/
def tupleBody? (cs : List Char) : Option (List Char) :=
  match cs with
  | '(' :: rest => if rest.getLast? == some ')' then some rest.dropLast else none
  | _ => none

/-- The text in front of the last closing angle bracket, or all of it if there is none. -/
def upToClosingAngle (cs : List Char) : List Char :=
  if cs.contains '>' then (dropEndWhile (· != '>') cs).dropLast else cs

/-- The text of a generic type before its first opening angle bracket, and its arguments. -/
def genericParts? (cs : List Char) : Option (List Char × List Char) :=
  match cs.dropWhile (· != '<') with
  | _ :: rest => some (trim (cs.takeWhile (· != '<')), upToClosingAngle rest)
  | [] => none

/-- The name that a text is, unless it is no name or one that is never a reference. -/
def keptName (cs : List Char) : List String :=
  let name := withoutGlobal cs
  if isQualifiedName name && !isFiltered (String.ofList name) then [String.ofList name] else []

/-! ### Each reading is shorter than its text -/

theorem length_le_of_mem_topLevelPieces {depth : Int} {cs piece : List Char}
    (h : piece ∈ topLevelPieces depth cs) : piece.length ≤ cs.length := by
  induction cs generalizing depth piece with
  | nil => simp_all [topLevelPieces]
  | cons c rest ih =>
    rw [topLevelPieces] at h
    split at h
    · rcases List.mem_cons.1 h with h | h
      · simp [h]
      · exact Nat.le_succ_of_le (ih h)
    · split at h
      · rename_i first others heq
        rcases List.mem_cons.1 h with h | h
        · have : first.length ≤ rest.length := ih (heq ▸ List.mem_cons_self)
          simpa [h] using this
        · exact Nat.le_succ_of_le (ih (heq ▸ List.mem_cons_of_mem _ h))
      · simp_all

theorem length_le_of_mem_splitTopLevel {cs part : List Char} (h : part ∈ splitTopLevel cs) :
    part.length ≤ cs.length := by
  obtain ⟨h, -⟩ := List.mem_filter.1 h
  obtain ⟨piece, hp, rfl⟩ := List.mem_map.1 h
  exact Nat.le_trans (length_trim_le piece) (length_le_of_mem_topLevelPieces hp)

theorem length_afterSections_le (inside : Bool) (cs : List Char) :
    (afterSections inside cs).length ≤ cs.length := by
  fun_induction afterSections inside cs <;> simp_all <;> omega

theorem length_afterModifiers_le (cs : List Char) :
    (afterModifiers cs).length ≤ cs.length := by
  fun_induction afterModifiers cs with
  | case1 cs h ih => exact Nat.le_trans ih (Nat.le_of_lt (length_trimStart_afterFirstWord_lt h.2))
  | case2 cs h => exact Nat.le_refl _

theorem length_typeSpan_le (depth : Int) (cs : List Char) :
    (typeSpan depth cs).length ≤ cs.length := by
  fun_induction typeSpan depth cs <;> simp_all

theorem length_leadingType_le (cs : List Char) : (leadingType cs).length ≤ cs.length :=
  Nat.le_trans (length_trim_le _) <| Nat.le_trans (length_typeSpan_le _ _) <|
    Nat.le_trans (length_afterModifiers_le _) <| Nat.le_trans (length_afterSections_le _ _) <|
      length_trim_le cs

theorem length_withoutArraySuffix_le (cs : List Char) :
    (withoutArraySuffix cs).length ≤ cs.length := by
  rw [withoutArraySuffix]
  split
  · exact Nat.le_trans (trimEnd_isPrefix _).length_le ( List.takeWhile_prefix _).length_le
  · exact Nat.le_refl _

theorem length_bareType_le (cs : List Char) : (bareType cs).length ≤ cs.length :=
  Nat.le_trans (length_trim_le _) <| Nat.le_trans (dropEndWhile_isPrefix _ _).length_le <|
    Nat.le_trans (length_withoutArraySuffix_le _) (length_trim_le cs)

theorem length_lt_of_tupleBody? {cs body : List Char} (h : tupleBody? cs = some body) :
    body.length < cs.length := by
  unfold tupleBody? at h
  split at h
  · rename_i rest
    split at h
    · cases h
      simp only [List.length_dropLast, List.length_cons]
      omega
    · cases h
  · cases h

theorem length_upToClosingAngle_le (cs : List Char) :
    (upToClosingAngle cs).length ≤ cs.length := by
  rw [upToClosingAngle]
  split
  · exact Nat.le_trans ( List.dropLast_prefix _).length_le (dropEndWhile_isPrefix _ _).length_le
  · exact Nat.le_refl _

theorem length_lt_of_genericParts? {cs : List Char} {parts : List Char × List Char}
    (h : genericParts? cs = some parts) : parts.2.length < cs.length := by
  unfold genericParts? at h
  split at h
  · rename_i c rest heq
    cases h
    have hle : (c :: rest).length ≤ cs.length := heq ▸ (List.dropWhile_suffix _).length_le
    have := length_upToClosingAngle_le rest
    simp only [List.length_cons] at hle
    show (upToClosingAngle rest).length < cs.length
    omega
  · cases h

/-- The names of a type that may be references, arguments before the name they are given to. -/
def typeNames (cs : List Char) : List String :=
  match _ht : tupleBody? (bareType cs) with
  | some body => (splitTopLevel body).attach.flatMap fun part => typeNames (leadingType part.1)
  | none =>
    match _hg : genericParts? (bareType cs) with
    | some parts =>
      ((splitTopLevel parts.2).attach.flatMap fun part => typeNames part.1) ++ keptName parts.1
    | none => keptName (bareType cs)
termination_by cs.length
decreasing_by
  · have := length_le_of_mem_splitTopLevel part.2
    have := length_leadingType_le part.1
    have := length_lt_of_tupleBody? _ht
    have := length_bareType_le cs
    omega
  · have := length_le_of_mem_splitTopLevel part.2
    have := length_lt_of_genericParts? _hg
    have := length_bareType_le cs
    omega

end RefAtlas.Reference
