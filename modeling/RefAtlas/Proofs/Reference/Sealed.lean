import RefAtlas.Proofs.Text.Trimmed
import RefAtlas.Reference.TypeText

/-! # Balanced texts

* `Sealed`: texts in which brackets are balanced and characters of some class stand inside brackets
  only. Which bracket closes which does not matter.
* `Sealed.scan`: a reading that counts brackets takes such a text as a whole.
* `splitTopLevel_separated`, `Sealed.typeSpan_append`: what that means for lists and for the type in
  front of a text.
-/

namespace RefAtlas.Reference
open RefAtlas.Text
set_option autoImplicit false

/-- Brackets are balanced, and no character of the class stands outside of them. -/
inductive Sealed : (Char → Bool) → List Char → Prop where
  | nil {p : Char → Bool} : Sealed p []
  | char {p : Char → Bool} {c : Char} {rest : List Char} (hstep : bracketStep c = 0)
    (hfree : p c = false) (hrest : Sealed p rest) : Sealed p (c :: rest)
  | bracket {p : Char → Bool} {o c : Char} {inner rest : List Char} (hopen : bracketStep o = 1)
    (hfree : p o = false) (hinner : Sealed (fun _ => false) inner) (hclose : bracketStep c = -1)
    (hrest : Sealed p rest) : Sealed p (o :: (inner ++ c :: rest))

namespace Sealed
variable {p q : Char → Bool} {cs ds : List Char}

theorem append (h : Sealed p cs) (h' : Sealed p ds) : Sealed p (cs ++ ds) := by
  induction h with
  | nil => exact h'
  | char hstep hfree _ ih => exact .char hstep hfree (ih h')
  | bracket hopen hfree hinner hclose _ _ ih =>
    rw [List.cons_append, List.append_assoc, List.cons_append]
    exact .bracket hopen hfree hinner hclose (ih h')

theorem mono (h : Sealed p cs) (hpq : ∀ c, p c = false → q c = false) : Sealed q cs := by
  induction h with
  | nil => exact .nil
  | char hstep hfree _ ih => exact .char hstep (hpq _ hfree) (ih hpq)
  | bracket hopen hfree hinner hclose _ _ ih =>
    exact .bracket hopen (hpq _ hfree) hinner hclose (ih hpq)

theorem of_forall (h : ∀ c ∈ cs, bracketStep c = 0 ∧ p c = false) : Sealed p cs := by
  induction cs with
  | nil => exact .nil
  | cons c rest ih =>
    have hc := h c List.mem_cons_self
    exact .char hc.1 hc.2 (ih fun d hd => h d (List.mem_cons_of_mem c hd))

/-- A reading that goes on by the depth of the brackets, and looks for characters of a class outside
of them, passes over a text without such characters. Inside brackets nothing is looked for, so there
the class of the text does not matter. -/
theorem scan_at {γ : Type} {f : Int → List Char → γ} {push : Char → γ → γ}
    (step : ∀ depth c rest, (depth = 0 → p c = false) →
      f depth (c :: rest) = push c (f (depth + bracketStep c) rest))
    (h : Sealed q cs) : ∀ (depth : Int) (rest : List Char), 0 ≤ depth → (depth = 0 → q = p) →
      f depth (cs ++ rest) = cs.foldr push (f depth rest) := by
  induction h with
  | nil => exact fun _ _ _ _ => rfl
  | char hstep hfree _ ih =>
    intro depth rest hdepth hq
    rw [List.cons_append, step depth _ _ fun h0 => hq h0 ▸ hfree, hstep, Int.add_zero,
      ih depth rest hdepth hq, List.foldr_cons]
  | @bracket q o c inner outer hopen hfree _ hclose _ ihInner ihOuter =>
    intro depth rest hdepth hq
    have hinside : depth + 1 ≠ 0 := by omega
    have hback : depth + 1 + -1 = depth := by omega
    rw [List.cons_append, List.append_assoc, List.cons_append,
      step depth o _ fun h0 => hq h0 ▸ hfree, hopen,
      ihInner (depth + 1) _ (by omega) fun h0 => absurd h0 hinside,
      step (depth + 1) c _ fun h0 => absurd h0 hinside, hclose, hback,
      ihOuter depth rest hdepth hq, List.foldr_cons, List.foldr_append, List.foldr_cons]

theorem scan {γ : Type} {f : Int → List Char → γ} {push : Char → γ → γ}
    (step : ∀ depth c rest, (depth = 0 → p c = false) →
      f depth (c :: rest) = push c (f (depth + bracketStep c) rest))
    (h : Sealed p cs) (rest : List Char) : f 0 (cs ++ rest) = cs.foldr push (f 0 rest) :=
  h.scan_at step 0 rest (Int.le_refl 0) fun _ => rfl

end Sealed

/-! ## White space -/

theorem ne_of_isBlank {c d : Char} (h : isBlank c = true) (hd : isBlank d = false) : c ≠ d := by
  rintro rfl
  rw [h] at hd
  cases hd

theorem bracketStep_of_isBlank {c : Char} (h : isBlank c = true) : bracketStep c = 0 := by
  have hne : ∀ d, isBlank d = false → (c == d) = false :=
    fun d hd => beq_false_of_ne (ne_of_isBlank h hd)
  simp [bracketStep, hne '<' (by decide), hne '(' (by decide), hne '[' (by decide),
    hne '>' (by decide), hne ')' (by decide), hne ']' (by decide)]

/-! ## Lists -/

theorem topLevelPieces_ne_nil (depth : Int) (cs : List Char) : topLevelPieces depth cs ≠ [] := by
  fun_cases topLevelPieces depth cs <;> exact List.cons_ne_nil _ _

theorem topLevelPieces_cons {depth : Int} {c : Char} (h : depth = 0 → (c == ',') = false)
    (rest : List Char) : topLevelPieces depth (c :: rest) =
      (topLevelPieces (depth + bracketStep c) rest).modifyHead (c :: ·) := by
  have hsplit : (c == ',' && depth == 0) = false := by
    by_cases h0 : depth = 0
    · rw [h h0, Bool.false_and]
    · rw [beq_false_of_ne h0, Bool.and_false]
  rw [topLevelPieces, hsplit, if_neg Bool.false_ne_true]
  cases hpieces : topLevelPieces (depth + bracketStep c) rest with
  | nil => exact absurd hpieces (topLevelPieces_ne_nil _ _)
  | cons piece pieces => rfl

theorem foldr_modifyHead_cons (cs : List Char) (pieces : List (List Char)) :
    cs.foldr (fun c ps => ps.modifyHead (c :: ·)) pieces = pieces.modifyHead (cs ++ ·) := by
  induction cs with
  | nil => cases pieces <;> rfl
  | cons c cs ih =>
    rw [List.foldr_cons, ih, List.modifyHead_modifyHead]
    rfl

theorem Sealed.topLevelPieces_append {cs : List Char} (h : Sealed (· == ',') cs) {depth : Int}
    (hdepth : 0 ≤ depth) (rest : List Char) :
    topLevelPieces depth (cs ++ rest) = (topLevelPieces depth rest).modifyHead (cs ++ ·) := by
  rw [h.scan_at (fun _ _ rest h => topLevelPieces_cons h rest) depth rest hdepth fun _ => rfl,
    foldr_modifyHead_cons]

theorem splitTopLevel_of_sealed {cs : List Char} (h : Sealed (· == ',') cs) :
    splitTopLevel cs = [trim cs].filter fun part => !part.isEmpty := by
  have hpieces := h.topLevelPieces_append (Int.le_refl 0) []
  rw [List.append_nil] at hpieces
  rw [splitTopLevel, hpieces, topLevelPieces, List.modifyHead_cons, List.append_nil]
  rfl

theorem splitTopLevel_append_separator {cs : List Char} (h : Sealed (· == ',') cs)
    (rest : List Char) :
    splitTopLevel (cs ++ (',' :: ' ' :: rest)) = splitTopLevel cs ++ splitTopLevel rest := by
  have hpieces : topLevelPieces 0 (cs ++ (',' :: ' ' :: rest)) =
      cs :: topLevelPieces 0 (' ' :: rest) := by
    rw [h.topLevelPieces_append (Int.le_refl 0), topLevelPieces]
    simp
  have hblank : (topLevelPieces 0 (' ' :: rest)).map trim = (topLevelPieces 0 rest).map trim := by
    rw [topLevelPieces_cons fun _ => rfl, show (0 : Int) + bracketStep ' ' = 0 from rfl]
    cases topLevelPieces 0 rest with
    | nil => rfl
    | cons piece pieces =>
      rw [List.modifyHead_cons, List.map_cons, List.map_cons, trim_cons_of_isBlank rfl]
  rw [splitTopLevel_of_sealed h, splitTopLevel, hpieces, List.map_cons, hblank, splitTopLevel,
    ← List.filter_append, List.singleton_append]

theorem splitTopLevel_append_comma {cs : List Char} (h : Sealed (· == ',') cs)
    (htrimmed : Trimmed cs) (rest : List Char) :
    splitTopLevel (cs ++ (',' :: ' ' :: rest)) = cs :: splitTopLevel rest := by
  rw [splitTopLevel_append_separator h, splitTopLevel_of_sealed h, htrimmed.trim_eq]
  simp [htrimmed.ne_nil]

def separated (texts : List (List Char)) : List Char := [',', ' '].intercalate texts

theorem separated_cons (cs cs' : List Char) (texts : List (List Char)) :
    separated (cs :: cs' :: texts) = cs ++ (',' :: ' ' :: separated (cs' :: texts)) := by
  simp [separated, List.intercalate]

theorem separated_cons_of_ne_nil {texts : List (List Char)} (h : texts ≠ []) (cs : List Char) :
    separated (cs :: texts) = cs ++ (',' :: ' ' :: separated texts) := by
  obtain ⟨cs', more, rfl⟩ := List.exists_cons_of_ne_nil h
  exact separated_cons cs cs' more

theorem forall_mem_separated {p : Char → Prop} {texts : List (List Char)}
    (h : ∀ cs ∈ texts, ∀ c ∈ cs, p c) (hcomma : p ',') (hspace : p ' ') :
    ∀ c ∈ separated texts, p c := by
  induction texts with
  | nil => exact List.forall_mem_nil _
  | cons cs texts ih =>
    obtain ⟨hcs, htexts⟩ := List.forall_mem_cons.1 h
    by_cases hempty : texts = []
    · rw [hempty, separated, List.intercalate_singleton]
      exact hcs
    · rw [separated_cons_of_ne_nil hempty]
      exact List.forall_mem_append.2
        ⟨hcs, List.forall_mem_cons.2 ⟨hcomma, List.forall_mem_cons.2 ⟨hspace, ih htexts⟩⟩⟩

theorem splitTopLevel_separated_eq {texts : List (List Char)}
    (h : ∀ cs ∈ texts, Sealed (· == ',') cs) :
    splitTopLevel (separated texts) = (texts.map trim).filter fun part => !part.isEmpty := by
  induction texts with
  | nil => rfl
  | cons cs texts ih =>
    have hcs := splitTopLevel_of_sealed (h cs List.mem_cons_self)
    cases texts with
    | nil =>
      rw [show separated [cs] = cs by simp [separated], hcs]
      rfl
    | cons cs' texts =>
      have hrest := ih fun ds hds => h ds (List.mem_cons_of_mem cs hds)
      rw [separated_cons, splitTopLevel_append_separator (h cs List.mem_cons_self), hcs, hrest,
        ← List.filter_append]
      rfl

theorem splitTopLevel_separated {texts : List (List Char)}
    (h : ∀ cs ∈ texts, Sealed (· == ',') cs ∧ Trimmed cs) :
    splitTopLevel (separated texts) = texts := by
  have htrim : texts.map trim = texts :=
    (List.map_congr_left fun cs hcs => (h cs hcs).2.trim_eq).trans (List.map_id texts)
  rw [splitTopLevel_separated_eq fun cs hcs => (h cs hcs).1, htrim]
  exact List.filter_eq_self.2 fun cs hcs => by simp [(h cs hcs).2.ne_nil]

/-- Inside brackets, commas and spaces are free. -/
theorem Sealed.separated {texts : List (List Char)} (h : ∀ cs ∈ texts, Sealed (fun _ => false) cs) :
    Sealed (fun _ => false) (separated texts) := by
  induction texts with
  | nil => exact .nil
  | cons cs texts ih =>
    have hcs := h cs List.mem_cons_self
    cases texts with
    | nil => simpa [Reference.separated] using hcs
    | cons cs' texts =>
      have hrest := ih fun ds hds => h ds (List.mem_cons_of_mem cs hds)
      rw [separated_cons]
      exact hcs.append (.char rfl rfl (.char rfl rfl hrest))

/-! ## The type in front -/

theorem typeSpan_cons {depth : Int} {c : Char} (h : depth = 0 → isBlank c = false)
    (rest : List Char) :
    typeSpan depth (c :: rest) = c :: typeSpan (depth + bracketStep c) rest := by
  have hgoes : (isBlank c && depth == 0 && !continuesType (c :: rest)) = false := by
    by_cases h0 : depth = 0
    · rw [h h0, Bool.false_and, Bool.false_and]
    · rw [beq_false_of_ne h0, Bool.and_false, Bool.false_and]
  rw [typeSpan, hgoes, if_neg Bool.false_ne_true]

theorem Sealed.typeSpan_append {cs : List Char} (h : Sealed isBlank cs) (rest : List Char) :
    typeSpan 0 (cs ++ rest) = cs ++ typeSpan 0 rest := by
  rw [h.scan (fun _ _ rest h => typeSpan_cons h rest) rest, List.foldr_cons_eq_append, List.map_id']

end RefAtlas.Reference
