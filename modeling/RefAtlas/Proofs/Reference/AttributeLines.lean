import RefAtlas.Proofs.Pattern.Forms
import RefAtlas.Proofs.Pattern.Found
import RefAtlas.Proofs.Text.Lines
import RefAtlas.Reference.Rule

/-! # Sections of attributes, line by line

* `SectionAt`: a bracketed section behind white space; `fits_attributePattern_iff` says that the
  attribute rule looks for those that stand at the start of a line.
* `SectionLine`: a line that begins with a section.
* `mem_namesIn_attributes_iff`: the names that the attribute rule finds are those in the sections of
  such lines; `mem_namesIn_attributes_between` says that each line is read on its own.
-/

namespace RefAtlas.Reference
open RefAtlas.Text
set_option autoImplicit false

/-- White space, then a bracketed text of one line without brackets in it, then anything. -/
structure SectionAt (cs gap body rest : List Char) : Prop where
  text : cs = gap ++ '[' :: (body ++ ']' :: rest)
  blank : ∀ c ∈ gap, isBlank c = true
  nonempty : body ≠ []
  inside : ∀ c ∈ body, Pattern.outside ['[', ']', '\n'] c = true

/-- A line begins with a section. -/
def SectionLine (line body : List Char) : Prop := ∃ gap rest, SectionAt line gap body rest

namespace SectionAt
variable {cs gap gap' body body' rest rest' : List Char}

theorem behind_gap (h : SectionAt cs gap body rest) :
    cs.dropWhile isBlank = '[' :: (body ++ ']' :: rest) := by
  rw [h.text, List.dropWhile_append_of_pos h.blank]
  rfl

theorem body_eq (h : SectionAt cs gap body rest) (h' : SectionAt cs gap' body' rest') :
    body = body' := by
  have hbody {body : List Char} (rest : List Char) (hinside : ∀ c ∈ body,
      Pattern.outside ['[', ']', '\n'] c = true) :
      (body ++ ']' :: rest).takeWhile (Pattern.outside ['[', ']', '\n']) = body := by
    rw [List.takeWhile_append_of_pos hinside, List.takeWhile_cons_of_neg (by decide),
      List.append_nil]
  have htext := (List.cons.inj (h.behind_gap.symm.trans h'.behind_gap)).2
  rw [← hbody rest h.inside, htext, hbody rest' h'.inside]

theorem not_mem_of_line (h : SectionAt cs gap body rest) : '\n' ∉ '[' :: body := by
  intro hmem
  rcases List.mem_cons.1 hmem with hc | hc
  · exact absurd hc (by decide)
  · exact absurd (h.inside _ hc) (by decide)

/-- Where a section is read from the start of a line on, behind white space, it is the same one. -/
theorem drop (h : SectionAt cs gap body rest) {front ds : List Char} (htext : cs = front ++ ds)
    (hline : ∀ c ∈ front.getLast?, c = '\n')
    (hlength : front.length < (gap ++ '[' :: (body ++ [']'])).length) :
    ∃ gap', SectionAt ds gap' body rest := by
  have hsplit := h.text.symm.trans htext
  rcases List.append_eq_append_iff.1 hsplit with ⟨front', hfront, hds⟩ | ⟨gap', hgap, hds⟩
  · -- A section holds no line feed, so the line starts in front of it.
    cases front' with
    | nil => exact ⟨[], hds.symm, List.forall_mem_nil _, h.nonempty, h.inside⟩
    | cons c front' =>
      have hcons := List.cons.inj hds
      rw [hfront, List.length_append, List.length_append, List.length_cons, List.length_cons,
        List.length_append, List.length_singleton] at hlength
      have hfront' : front' <+: body ++ ']' :: rest := ⟨ds, hcons.2.symm⟩
      have hbody : front' <+: body :=
        List.prefix_of_prefix_length_le hfront' (List.prefix_append body _) (by omega)
      have hlast : (c :: front').getLast (List.cons_ne_nil c front') = '\n' := by
        refine hline _ ?_
        rw [hfront, List.getLast?_append, List.getLast?_eq_some_getLast (List.cons_ne_nil c front')]
        rfl
      refine absurd ?_ h.not_mem_of_line
      rw [← hlast]
      have hmem := List.getLast_mem (List.cons_ne_nil c front')
      rcases List.mem_cons.1 hmem with hc | hc
      · rw [hc, ← hcons.1]
        exact List.mem_cons_self
      · exact List.mem_cons_of_mem _ (hbody.subset hc)
  · refine ⟨gap', hds, fun c hc => h.blank c ?_, h.nonempty, h.inside⟩
    rw [hgap]
    exact List.mem_append_right front hc

end SectionAt

/-! ## The pattern -/

theorem fits_attributePattern_iff {before : Option Char} {piece rest : List Char}
    {pieces : List (Nat × List Char)} :
    attributePattern.Fits before piece rest pieces ↔ ∃ gap body,
      piece = gap ++ '[' :: (body ++ [']']) ∧ SectionAt (piece ++ rest) gap body rest ∧
        before.all (· == '\n') = true ∧ pieces = [(1, body)] := by
  constructor
  · rintro ⟨_, _, _, _, rfl, rfl, ⟨rfl, rfl, hline⟩, gap, _, _, _, rfl, rfl, ⟨hgap, -, rfl⟩,
      _, _, _, _, rfl, rfl, ⟨rfl, rfl⟩, body, _, _, _, rfl, rfl, ⟨inner, rfl, hbody⟩, rfl, rfl⟩
    obtain ⟨hne, hinside, -, rfl⟩ := Pattern.fits_run1_iff.1 hbody
    exact ⟨gap, body, rfl, ⟨by simp, hgap, hne, hinside⟩, hline, rfl⟩
  · rintro ⟨gap, body, rfl, hsection, hline, rfl⟩
    refine ⟨[], _, [], _, rfl, rfl, ⟨rfl, rfl, hline⟩, gap, _, [], _, rfl, rfl,
      ⟨hsection.blank, ?_, rfl⟩, ['['], _, [], _, rfl, rfl, ⟨rfl, rfl⟩, body, [']'], [(1, body)],
      [], rfl, rfl, ⟨[], rfl, ?_⟩, rfl, rfl⟩
    · simp [isBlank]
    · exact Pattern.fits_run1_iff.2 ⟨hsection.nonempty, hsection.inside, by simp; decide, rfl⟩

/-! ## Lines -/

theorem sectionLine_of_occurs {cs front piece rest : List Char} {pieces : List (Nat × List Char)}
    (h : attributePattern.Occurs none cs front piece rest pieces) :
    ∃ line ∈ cs.splitOn '\n', ∃ body, SectionLine line body ∧ pieces = [(1, body)] := by
  obtain ⟨gap, body, rfl, hsection, hline, rfl⟩ := fits_attributePattern_iff.1 h.fits
  obtain ⟨before, indent, rfl, hindent, hbefore⟩ := exists_last_piece '\n' gap
  obtain ⟨tail, after, rfl, htail, hafter⟩ := exists_first_piece '\n' rest
  have hbody := hsection.not_mem_of_line
  refine ⟨indent ++ '[' :: (body ++ ']' :: tail), mem_splitOn_iff.2 ⟨front ++ before, after, ?_⟩,
    body, ⟨indent, tail, rfl, fun c hc => hsection.blank c (List.mem_append_right before hc),
      hsection.nonempty, hsection.inside⟩, rfl⟩
  refine ⟨by simp [h.text], by simp_all, ?_, hafter⟩
  intro d hd
  rw [List.getLast?_append] at hd
  cases hlast : before.getLast? with
  | some e =>
    rw [hlast] at hd
    exact Option.some.inj hd ▸ hbefore e hlast
  | none =>
    rw [hlast, Option.none_or] at hd
    rw [lastOr, hd] at hline
    simpa using hline

theorem exists_place_of_sectionLine {cs line body : List Char} (hline : line ∈ cs.splitOn '\n')
    (h : SectionLine line body) : ∃ place ∈ attributePattern.findAll cs,
      place.pieces = [(1, body)] := by
  obtain ⟨before, after, hbetween⟩ := mem_splitOn_iff.1 hline
  obtain ⟨gap, rest, hsection⟩ := h
  have hstart : (lastOr none before).all (· == '\n') = true := by
    rw [lastOr, Option.or_none]
    cases hlast : before.getLast? with
    | none => rfl
    | some d => simpa using hbetween.before d hlast
  have htext : line ++ after = gap ++ '[' :: (body ++ [']']) ++ (rest ++ after) := by
    simp [hsection.text]
  have hbehind : SectionAt (gap ++ '[' :: (body ++ [']']) ++ (rest ++ after)) gap body
      (rest ++ after) :=
    ⟨by simp, hsection.blank, hsection.nonempty, hsection.inside⟩
  have hoccurs : attributePattern.Occurs none cs before (gap ++ '[' :: (body ++ [']']))
      (rest ++ after) [(1, body)] :=
    ⟨by rw [← htext, hbetween.text],
      fits_attributePattern_iff.2 ⟨gap, body, rfl, hbehind, hstart, rfl⟩⟩
  obtain ⟨place, hplace, front', piece', rest', hfound, hle, hover⟩ :=
    Pattern.exists_mem_findAll hoccurs
  obtain ⟨gap', body', rfl, hsection', -, hpieces⟩ := fits_attributePattern_iff.1 hfound.fits
  obtain ⟨middle, rfl⟩ : front' <+: before :=
    List.prefix_of_prefix_length_le ⟨_, hfound.text.symm⟩ ⟨_, hbetween.text.symm⟩ hle
  have hcs := hfound.text.symm.trans (hoccurs.text.trans (List.append_assoc ..))
  rw [List.length_append] at hover
  have hmiddle : ∀ c ∈ middle.getLast?, c = '\n' := by
    intro c hc
    refine hbetween.before c ?_
    rw [List.getLast?_append, Option.mem_def.1 hc]
    rfl
  obtain ⟨gap'', hdrop⟩ := hsection'.drop (List.append_cancel_left hcs) hmiddle (by
    have hpos : 0 < (gap' ++ '[' :: (body' ++ [']'])).length :=
      List.length_pos_iff.2 (List.append_ne_nil_of_right_ne_nil gap' (List.cons_ne_nil _ _))
    omega)
  exact ⟨place, hplace, by rw [hpieces, hdrop.body_eq hbehind]⟩

/-- The attribute rule reads the sections with which lines begin, each line on its own. -/
theorem mem_namesIn_attributes_iff {cs : List Char} {name : String} :
    name ∈ Rule.attributes.namesIn cs ↔
      ∃ line ∈ cs.splitOn '\n', ∃ body, SectionLine line body ∧ name ∈ attributeNames body := by
  have hread {place : Cursor} {body : List Char} (h : place.pieces = [(1, body)]) :
      Rule.attributes.namesAt place = attributeNames body := by
    have hpiece : place.piece? 1 = some body := by
      rw [Cursor.piece?_eq, h]
      rfl
    simp [Rule.namesAt, hpiece]
  constructor
  · intro h
    obtain ⟨place, hplace, hname⟩ := List.mem_flatMap.1 h
    obtain ⟨front, piece, rest, hoccurs⟩ := Pattern.occurs_of_mem_findAll hplace
    obtain ⟨line, hline, body, hsection, hpieces⟩ := sectionLine_of_occurs hoccurs
    exact ⟨line, hline, body, hsection, hread hpieces ▸ hname⟩
  · rintro ⟨line, hline, body, hsection, hname⟩
    obtain ⟨place, hplace, hpieces⟩ := exists_place_of_sectionLine hline hsection
    exact List.mem_flatMap.2 ⟨place, hplace, (hread hpieces).symm ▸ hname⟩

theorem SectionAt.sectionLine_iff {line gap body rest : List Char}
    (h : SectionAt line gap body rest) {body' : List Char} : SectionLine line body' ↔ body' = body := by
  constructor
  · rintro ⟨_, _, h'⟩
    exact h'.body_eq h
  · rintro rfl
    exact ⟨gap, rest, h⟩

theorem mem_namesIn_attributes_between {cs before line after gap body rest : List Char}
    (h : Between '\n' cs before line after) (hsection : SectionAt line gap body rest)
    {name : String} : name ∈ Rule.attributes.namesIn cs ↔
      name ∈ Rule.attributes.namesIn before ∨ name ∈ attributeNames body ∨
        name ∈ Rule.attributes.namesIn after := by
  have hnil : ¬ ∃ body, SectionLine [] body ∧ name ∈ attributeNames body := by
    rintro ⟨_, ⟨gap, rest, h⟩, -⟩
    have hlength := congrArg List.length h.text
    simp at hlength
  rw [mem_namesIn_attributes_iff, mem_namesIn_attributes_iff, mem_namesIn_attributes_iff,
    exists_mem_splitOn_iff h hnil]
  simp only [hsection.sectionLine_iff, exists_eq_left]

end RefAtlas.Reference
