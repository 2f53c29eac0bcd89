import RefAtlas.Proofs.Pattern.Forms
import RefAtlas.Proofs.Reference.Filter
import RefAtlas.Proofs.Reference.TypeNames
import RefAtlas.Proofs.Text.Spaced

/-! # The segments of a name

* `QualifiedName.last`, `QualifiedName.segments`: the identifiers of a name; `QualifiedName.shortName_text`
  says that the last one is what the name is short for.
* `QualifiedName.rooted`: the name with the root in front of it.
* `QualifiedName.IsPointed`: only points join the identifiers, so that the patterns take the name as
  a dotted one.
* `QualifiedName.mem_segments_of_word`: a word of its own in the text of a name is a segment.
-/

namespace RefAtlas.Reference
open RefAtlas.Text
open RefAtlas.Pattern (IsName IsDottedName)
set_option autoImplicit false

theorem Identifier.isName (i : Identifier) : IsName i.chars :=
  ⟨i.first, i.rest, rfl, i.starts, i.continues⟩

def lastIdentifier (first : Identifier) : List (Joint × Identifier) → Identifier
  | [] => first
  | step :: more => lastIdentifier step.2 more

namespace QualifiedName

def root : Identifier :=
  ⟨'g', ['l', 'o', 'b', 'a', 'l'], rfl, List.all_eq_true.1 (by decide +kernel)⟩

def rooted (q : QualifiedName) : QualifiedName := ⟨root, (.colons, q.first) :: q.more⟩

def last (q : QualifiedName) : Identifier := lastIdentifier q.first q.more

def segments (q : QualifiedName) : List (List Char) :=
  q.first.chars :: q.more.map fun step => step.2.chars

/-- Every identifier but the first one is joined by a point. -/
def IsPointed (q : QualifiedName) : Prop := ∀ step ∈ q.more, step.1 = .point

theorem withoutRoot_rooted (q : QualifiedName) : q.rooted.withoutRoot = q := by
  simp [rooted, withoutRoot, root, Identifier.chars, rootChars]

theorem last_rooted (q : QualifiedName) : q.rooted.last = q.last := rfl

theorem not_isPointed_rooted (q : QualifiedName) : ¬ q.rooted.IsPointed := fun h =>
  nomatch h _ List.mem_cons_self

/-! ## The last segment -/

theorem exists_chars_eq_last (q : QualifiedName) :
    ∃ front, q.chars = front ++ q.last.chars ∧ ∀ c ∈ front.getLast?, isSeparator c = true := by
  obtain ⟨first, more⟩ := q
  induction more generalizing first with
  | nil => exact ⟨[], by simp [chars, last, lastIdentifier], by simp⟩
  | cons step more ih =>
    obtain ⟨joint, next⟩ := step
    obtain ⟨front, hchars, hfront⟩ := ih next
    refine ⟨first.chars ++ (joint.chars ++ front), ?_, fun c hc => ?_⟩
    · simp only [chars, last, lastIdentifier, List.flatMap_cons, List.append_assoc] at hchars ⊢
      rw [hchars]
    · rw [List.getLast?_append, List.getLast?_append] at hc
      cases hlast : front.getLast? with
      | some d =>
        rw [hlast] at hc
        exact Option.some.inj hc ▸ hfront d hlast
      | none =>
        rw [hlast] at hc
        cases joint
        · exact Option.some.inj hc ▸ rfl
        · exact Option.some.inj hc ▸ rfl

theorem isSeparator_eq_false_of_isWord {c : Char} (h : isWord c = true) : isSeparator c = false := by
  refine Bool.eq_false_iff.2 fun hsep => ?_
  simp only [isSeparator, Bool.or_eq_true, beq_iff_eq] at hsep
  rcases hsep with rfl | rfl
  · exact absurd h (by decide)
  · exact absurd h (by decide)

theorem isWord_eq_false_of_isSeparator {c : Char} (h : isSeparator c = true) : isWord c = false := by
  refine Bool.eq_false_iff.2 fun hword => ?_
  rw [isSeparator_eq_false_of_isWord hword] at h
  cases h

theorem isWord_getLast? (q : QualifiedName) : ∀ c ∈ q.chars.getLast?, isWord c = true := by
  obtain ⟨front, hchars, -⟩ := q.exists_chars_eq_last
  rw [hchars]
  exact forall_getLast?_append (List.cons_ne_nil _ _) fun _ => q.last.isWord_of_mem

theorem lastSegment_chars (q : QualifiedName) : lastSegment q.chars = q.last.chars := by
  obtain ⟨front, hchars, hfront⟩ := q.exists_chars_eq_last
  have hfree : ∀ c ∈ q.last.chars.reverse, (!isSeparator c) = true := fun c hc => by
    rw [isSeparator_eq_false_of_isWord (q.last.isWord_of_mem (List.mem_reverse.1 hc))]
    rfl
  have hbehind : ∀ c ∈ front.reverse.head?, (!isSeparator c) = false := fun c hc => by
    rw [hfront c (by rwa [List.head?_reverse] at hc)]
    rfl
  have hends : ∀ c ∈ q.chars.reverse.head?, isSeparator c = false := by
    rw [List.head?_reverse]
    exact fun c hc => isSeparator_eq_false_of_isWord (q.isWord_getLast? c hc)
  have hdrop : q.chars.reverse.dropWhile isSeparator = q.chars.reverse :=
    (takeWhile_dropWhile_of_run (List.forall_mem_nil _) hends).2
  rw [lastSegment, hdrop, hchars, List.reverse_append,
    (takeWhile_dropWhile_of_run hfree hbehind).1, List.reverse_reverse]
  simp [Identifier.chars]

theorem shortName_text (q : QualifiedName) : shortName q.text = String.ofList q.last.chars := by
  rw [shortName, text, String.toList_ofList, lastSegment_chars]

theorem last_withoutRoot (q : QualifiedName) : q.withoutRoot.last = q.last := by
  unfold withoutRoot
  split
  · rename_i next more heq
    split
    · rw [last, last, heq]
      rfl
    · rfl
  · rfl

theorem lastWord_append_chars (q : QualifiedName) {front : List Char}
    (hfront : ∀ c ∈ front.getLast?, isWord c = false) :
    lastWord (front ++ q.chars) = q.last.chars := by
  obtain ⟨front', hchars, hfront'⟩ := q.exists_chars_eq_last
  rw [hchars, ← List.append_assoc]
  refine lastWord_append (fun _ => q.last.isWord_of_mem) fun c hc => ?_
  rw [List.getLast?_append] at hc
  cases hlast : front'.getLast? with
  | some d =>
    rw [hlast] at hc
    exact Option.some.inj hc ▸ isWord_eq_false_of_isSeparator (hfront' d hlast)
  | none =>
    rw [hlast] at hc
    exact hfront c hc

theorem lastWord_chars (q : QualifiedName) : lastWord q.chars = q.last.chars := by
  have hends := @lastWord_append_chars q [] (by simp)
  rwa [List.nil_append] at hends

theorem toList_ne_last {q : QualifiedName} (h : isFiltered q.text = false) {word : String}
    (hword : isKeyword word = true) : word.toList ≠ q.last.chars := by
  intro heq
  have hshort : shortName q.text = word := by
    rw [shortName_text, ← heq, String.ofList_toList]
  rw [← isFiltered_shortName, hshort, isFiltered, hword] at h
  cases h

/-! ## Names with points only -/

theorem isPointed_iff (q : QualifiedName) : q.IsPointed ↔ IsDottedName q.chars := by
  have hidentifier (i : Identifier) : ∀ c ∈ i.chars, Pattern.isDotted c = true := fun c hc => by
    rw [Pattern.isDotted, i.isWord_of_mem hc, Bool.true_or]
  constructor
  · intro h
    refine ⟨q.first.first, _, rfl, q.first.starts, List.forall_mem_append.2
      ⟨fun c hc => hidentifier q.first c (List.mem_cons_of_mem _ hc), fun c hc => ?_⟩⟩
    obtain ⟨step, hstep, hc⟩ := List.mem_flatMap.1 hc
    rw [h step hstep] at hc
    rcases List.mem_append.1 hc with hc | hc
    · exact List.mem_singleton.1 hc ▸ rfl
    · exact hidentifier step.2 c hc
  · rintro ⟨c, tail, hchars, -, htail⟩ step hstep
    obtain ⟨joint, next⟩ := step
    cases joint with
    | point => rfl
    | colons =>
      have hcolon : ':' ∈ q.first.rest ++ q.more.flatMap fun s => s.1.chars ++ s.2.chars :=
        List.mem_append_right _ (List.mem_flatMap.2 ⟨_, hstep, List.mem_append_left _
          List.mem_cons_self⟩)
      have htail' : q.first.rest ++ q.more.flatMap (fun s => s.1.chars ++ s.2.chars) = tail :=
        (List.cons.inj hchars).2
      exact absurd (htail ':' (htail' ▸ hcolon)) (by decide)

end QualifiedName

/-! ## Words in a name -/

section Words
variable {front word rest : List Char}

/-- A word does not begin within characters of which no words are made. -/
theorem exists_front_of_marks {marks behind : List Char}
    (htext : marks ++ behind = front ++ (word ++ rest)) (hmarks : ∀ c ∈ marks, isWord c = false)
    (hword : word ≠ []) (hword' : ∀ c ∈ word, isWord c = true) :
    ∃ front', front = marks ++ front' ∧ behind = front' ++ (word ++ rest) := by
  rcases List.append_eq_append_iff.1 htext with ⟨front', hfront, hbehind⟩ | ⟨inside, hmarks', hword''⟩
  · exact ⟨front', hfront, hbehind⟩
  · cases inside with
    | nil => exact ⟨[], by simpa using hmarks'.symm, by simpa using hword''.symm⟩
    | cons c inside =>
      obtain ⟨d, word, rfl⟩ := List.exists_cons_of_ne_nil hword
      obtain rfl := (List.cons.inj hword'').1
      have hmark := hmarks d (hmarks' ▸ List.mem_append_right front List.mem_cons_self)
      rw [hword' d List.mem_cons_self] at hmark
      cases hmark

/-- A word of its own is the identifier in front, or stands behind it. -/
theorem eq_or_exists_front_of_identifier {i : Identifier} {behind : List Char}
    (htext : i.chars ++ behind = front ++ (word ++ rest))
    (hbehind : ∀ c ∈ behind.head?, isWord c = false) (hword' : ∀ c ∈ word, isWord c = true)
    (hfront : ∀ c ∈ front.getLast?, isWord c = false)
    (hrest : ∀ c ∈ rest.head?, isWord c = false) :
    word = i.chars ∨ ∃ front', front = i.chars ++ front' ∧ behind = front' ++ (word ++ rest) := by
  have hidentifier : ∀ c ∈ i.chars, isWord c = true := fun _ => i.isWord_of_mem
  rcases List.append_eq_append_iff.1 htext with ⟨front', hfront', hbehind'⟩ | ⟨inside, hchars, hword''⟩
  · exact .inr ⟨front', hfront', hbehind'⟩
  · -- In front of the word there is no part of the identifier.
    have hnil : front = [] := by
      rcases List.eq_nil_or_concat front with rfl | ⟨init, c, rfl⟩
      · rfl
      · rw [List.concat_eq_append] at hfront hchars
        have hc := hidentifier c (hchars ▸ by simp)
        rw [hfront c (by simp)] at hc
        cases hc
    rw [hnil, List.nil_append] at htext
    left
    rw [← (takeWhile_dropWhile_of_run hword' hrest).1, ← htext,
      (takeWhile_dropWhile_of_run hidentifier hbehind).1]

end Words

/-- A word of its own, in a name and a text without words behind it, is one of the segments. -/
theorem QualifiedName.mem_segments_of_word (q : QualifiedName) {tail front word rest : List Char}
    (htext : q.chars ++ tail = front ++ (word ++ rest)) (htail : ∀ c ∈ tail, isWord c = false)
    (hword : word ≠ []) (hword' : ∀ c ∈ word, isWord c = true)
    (hfront : ∀ c ∈ front.getLast?, isWord c = false)
    (hrest : ∀ c ∈ rest.head?, isWord c = false) : word ∈ q.segments := by
  have hjoint (joint : Joint) : ∀ c ∈ joint.chars, isWord c = false := by
    cases joint <;> simp [Joint.chars] <;> decide
  obtain ⟨first, more⟩ := q
  induction more generalizing first front with
  | nil =>
    rw [chars, List.flatMap_nil, List.append_nil] at htext
    have hbehind : ∀ c ∈ tail.head?, isWord c = false := fun c hc =>
      htail c (List.mem_of_mem_head? hc)
    rcases eq_or_exists_front_of_identifier htext hbehind hword' hfront hrest with rfl |
      ⟨front', -, htail'⟩
    · exact List.mem_cons_self
    · have hmarks : tail ++ [] = front' ++ (word ++ rest) := (List.append_nil tail).trans htail'
      obtain ⟨front'', -, hnil⟩ := exists_front_of_marks hmarks htail hword hword'
      simp [hword] at hnil
  | cons step more ih =>
    obtain ⟨joint, next⟩ := step
    have htext' : first.chars ++ (joint.chars ++ (chars ⟨next, more⟩ ++ tail)) =
        front ++ (word ++ rest) := by
      rw [← htext]
      simp [chars]
    have hbehind : ∀ c ∈ (joint.chars ++ (chars ⟨next, more⟩ ++ tail)).head?, isWord c = false := by
      cases joint <;> simp [Joint.chars] <;> decide
    rcases eq_or_exists_front_of_identifier htext' hbehind hword' hfront hrest with rfl |
      ⟨front', rfl, hbehind'⟩
    · exact List.mem_cons_self
    · obtain ⟨front'', rfl, hnext⟩ := exists_front_of_marks hbehind' (hjoint joint) hword hword'
      have hfront'' := forall_getLast?_of_append (forall_getLast?_of_append hfront)
      exact List.mem_cons_of_mem _ (ih hfront'' next hnext)

end RefAtlas.Reference
