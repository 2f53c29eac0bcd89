import Mathlib.Data.List.Perm.Basic
import RefAtlas.Data.Decode
import RefAtlas.Proofs.Dictionary

/-! # Values written anew

The same data may be written with the fields of a record in another order, and with further fields that
nobody asks for. What is read stays the same.

* `ListAnew`, `MapAnew`, `RecordAnew`: lists, records of entries and records of fields written anew,
  from what their parts are.
* `RecordAnew.exists_known`: the fields that are asked for are found, and only they are.
* `RecordAnew.untag`: a field that tells the kind of a record is found wherever it stands.
* `asList_anew`, `asEntries_anew`: reading lists and entries.
* `LeavesOut`, `Known.optional_of_leavesOut`: fields left out because a reader adds them.
-/

namespace RefAtlas.Data
set_option autoImplicit false

/-! ## Relations -/

/-- A field with a value written anew. -/
def FieldAnew (field : String → Value → Value → Prop) (f g : String × Value) : Prop :=
  g.1 = f.1 ∧ field f.1 f.2 g.2

inductive ListAnew (item : Value → Value → Prop) : Value → Value → Prop where
  | intro {vs ws : List Value} (items : List.Forall₂ item vs ws) : ListAnew item (.list vs) (.list ws)

/-- A record with free names: the same names in another order. -/
inductive MapAnew (entry : Value → Value → Prop) : Value → Value → Prop where
  | intro {fs hs gs : List (String × Value)}
    (entries : List.Forall₂ (FieldAnew fun _ => entry) fs hs) (perm : gs.Perm hs) :
    MapAnew entry (.record fs) (.record gs)

/-- A record with declared names: its fields in another order, and others with other names. -/
inductive RecordAnew (names : List String) (field : String → Value → Value → Prop) :
    Value → Value → Prop where
  | intro {fs hs : List (String × Value)} (extra : List (String × Value))
    {gs : List (String × Value)} (fields : List.Forall₂ (FieldAnew field) fs hs)
    (others : ∀ e ∈ extra, e.1 ∉ names) (perm : gs.Perm (hs ++ extra)) :
    RecordAnew names field (.record fs) (.record gs)

theorem ListAnew.refl {item : Value → Value → Prop} {vs : List Value} (h : ∀ v ∈ vs, item v v) :
    ListAnew item (.list vs) (.list vs) := ⟨List.forall₂_same.2 h⟩

theorem MapAnew.refl {entry : Value → Value → Prop} {fs : List (String × Value)}
    (h : ∀ f ∈ fs, entry f.2 f.2) : MapAnew entry (.record fs) (.record fs) :=
  ⟨List.forall₂_same.2 fun f hf => ⟨rfl, h f hf⟩, List.Perm.refl fs⟩

theorem RecordAnew.refl {names : List String} {field : String → Value → Value → Prop}
    {fs : List (String × Value)} (h : ∀ f ∈ fs, field f.1 f.2 f.2) :
    RecordAnew names field (.record fs) (.record fs) :=
  ⟨[], List.forall₂_same.2 fun f hf => ⟨rfl, h f hf⟩, fun _ he => absurd he List.not_mem_nil,
    by rw [List.append_nil]⟩

theorem RecordAnew.reversed {names : List String} {field : String → Value → Value → Prop}
    {fs : List (String × Value)} (hs extra : List (String × Value))
    (fields : List.Forall₂ (FieldAnew field) fs hs) (others : ∀ e ∈ extra, e.1 ∉ names) :
    RecordAnew names field (.record fs) (.record (hs ++ extra).reverse) :=
  ⟨extra, fields, others, List.reverse_perm _⟩

/-! ## Fields by name -/

section Fields
variable {field : String → Value → Value → Prop} {fs hs : List (String × Value)}

theorem map_fst_of_fieldsAnew (h : List.Forall₂ (FieldAnew field) fs hs) :
    hs.map Prod.fst = fs.map Prod.fst := by
  induction h with
  | nil => rfl
  | cons hfield _ ih => rw [List.map_cons, List.map_cons, hfield.1, ih]

theorem exists_of_mem_fieldsAnew (h : List.Forall₂ (FieldAnew field) fs hs) {f : String × Value}
    (hf : f ∈ fs) : ∃ w, (f.1, w) ∈ hs ∧ field f.1 f.2 w := by
  induction h with
  | nil => cases hf
  | @cons f' g fs hs hfield _ ih =>
    rcases List.mem_cons.1 hf with rfl | hf
    · exact ⟨g.2, hfield.1 ▸ List.mem_cons_self, hfield.2⟩
    · obtain ⟨w, hw, hanew⟩ := ih hf
      exact ⟨w, List.mem_cons_of_mem g hw, hanew⟩

theorem Value.repeatedName?_eq_none (h : (fs.map Prod.fst).Nodup) :
    Value.repeatedName? fs = none := by
  induction fs with
  | nil => rfl
  | cons f rest ih =>
    obtain ⟨hnew, hrest⟩ := List.nodup_cons.1 h
    have hany : (rest.any fun g => g.1 == f.1) = false := by
      rw [List.any_eq_false]
      intro g hg heq
      exact hnew (eq_of_beq heq ▸ List.mem_map_of_mem hg)
    rw [Value.repeatedName?, hany]
    exact ih hrest

theorem Value.lastField?_eq_some_iff (h : (fs.map Prod.fst).Nodup) {name : String} {v : Value} :
    Value.lastField? fs name = some v ↔ (name, v) ∈ fs := by
  have hvalues : ∀ key v w, (key, v) ∈ fs.reverse → (key, w) ∈ fs.reverse → v = w := by
    intro key v w hv hw
    have hsame := List.inj_on_of_nodup_map h (List.mem_reverse.1 hv) (List.mem_reverse.1 hw) rfl
    exact (Prod.mk.inj hsame).2
  rw [Value.lastField?, find?_key_eq_some_iff hvalues, List.mem_reverse]

/-- The fields of a record that are read: those of a list, with values written anew. -/
structure Known (field : String → Value → Value → Prop) (fs known : List (String × Value)) :
    Prop where
  found : ∀ f ∈ fs, ∃ w, Value.lastField? known f.1 = some w ∧ field f.1 f.2 w
  absent : ∀ name, name ∉ fs.map Prod.fst → Value.lastField? known name = none

theorem RecordAnew.exists_known {names : List String} {v : Value} (dialect : Dialect)
    (hnodup : names.Nodup) (hsub : (fs.map Prod.fst).Sublist names)
    (h : RecordAnew names field (.record fs) v) :
    ∃ known, v.asFields dialect names = .ok known ∧ Known field fs known := by
  obtain @⟨_, hs, extra, gs, hfields, hothers, hperm⟩ := h
  have hkeys := map_fst_of_fieldsAnew hfields
  let known := gs.filter fun g => names.contains g.1
  have hknown : known.Perm hs := by
    have hall : hs.filter (fun g => names.contains g.1) = hs := by
      refine List.filter_eq_self.2 fun g hg => List.contains_iff_mem.2 ?_
      exact hsub.subset (hkeys ▸ List.mem_map_of_mem hg)
    have hnone : extra.filter (fun g => names.contains g.1) = [] := by
      refine List.filter_eq_nil_iff.2 fun e he hmem => ?_
      exact hothers e he (List.contains_iff_mem.1 hmem)
    have hfilter := hperm.filter fun g => names.contains g.1
    rwa [List.filter_append, hall, hnone, List.append_nil] at hfilter
  have hknownKeys : (known.map Prod.fst).Perm (fs.map Prod.fst) := hkeys ▸ hknown.map Prod.fst
  have hknownNodup : (known.map Prod.fst).Nodup := hknownKeys.nodup_iff.2 (hnodup.sublist hsub)
  refine ⟨known, ?_, fun f hf => ?_, fun name hname => ?_⟩
  · have hrepeated : Value.repeatedName? known = none := Value.repeatedName?_eq_none hknownNodup
    simp only [Value.asFields]
    rw [hrepeated]
  · obtain ⟨w, hw, hanew⟩ := exists_of_mem_fieldsAnew hfields hf
    exact ⟨w, (Value.lastField?_eq_some_iff hknownNodup).2 (hknown.mem_iff.2 hw), hanew⟩
  · refine Option.eq_none_iff_forall_ne_some.2 fun w hw => hname ?_
    have hmem := (Value.lastField?_eq_some_iff hknownNodup).1 hw
    exact hknownKeys.mem_iff.1 (List.mem_map_of_mem (f := Prod.fst) hmem)

/-- A field that tells the kind of a record, and the rest of the record without it. -/
theorem RecordAnew.untag {names : List String} {tag : String} {t v : Value} (htag : tag ∉ names)
    (hsub : (fs.map Prod.fst).Sublist names)
    (h : RecordAnew (tag :: names) field (.record ((tag, t) :: fs)) v) :
    ∃ gs t', v = .record gs ∧ gs.filter (fun g => g.1 == tag) = [(tag, t')] ∧ field tag t t' ∧
      RecordAnew names field (.record fs) (.record (gs.filter fun g => g.1 != tag)) := by
  obtain @⟨_, _, extra, gs, hfields, hothers, hperm⟩ := h
  obtain ⟨⟨tag', t'⟩, hs, ⟨htag', ht⟩, hrest, rfl⟩ := List.forall₂_cons_left_iff.1 hfields
  obtain rfl : tag = tag' := htag'.symm
  have hs_ne : ∀ g ∈ hs, g.1 ≠ tag := by
    intro g hg heq
    have hmem := hsub.subset (map_fst_of_fieldsAnew hrest ▸ List.mem_map_of_mem hg)
    exact htag (heq ▸ hmem)
  have hne : ∀ g ∈ hs ++ extra, g.1 ≠ tag := by
    intro g hg
    rcases List.mem_append.1 hg with hg | hg
    · exact hs_ne g hg
    · exact fun heq => hothers g hg (heq ▸ List.mem_cons_self)
  refine ⟨gs, t', rfl, ?_, ht, ?_⟩
  · have hfilter := hperm.filter fun g => g.1 == tag
    have hnone : (hs ++ extra).filter (fun g => g.1 == tag) = [] :=
      List.filter_eq_nil_iff.2 fun g hg => by simpa using hne g hg
    rw [List.cons_append, List.filter_cons_of_pos (by simp), hnone] at hfilter
    exact List.perm_singleton.1 hfilter
  · have hfilter := hperm.filter fun g => g.1 != tag
    have hall : (hs ++ extra).filter (fun g => g.1 != tag) = hs ++ extra :=
      List.filter_eq_self.2 fun g hg => by simpa using hne g hg
    rw [List.cons_append, List.filter_cons_of_neg (by simp), hall] at hfilter
    exact ⟨extra, hrest, fun e he hmem => hothers e he (List.mem_cons_of_mem tag hmem), hfilter⟩

end Fields

/-! ## Reading fields -/

section Reading
variable {β : Type} {field : String → Value → Value → Prop} {fs known : List (String × Value)}
  {name : String} {v : Value} {decode : Value → Except DecodeFault β} {x : β}

theorem Known.required_eq (h : Known field fs known) (hmem : (name, v) ∈ fs)
    (hread : ∀ w, field name v w → decode w = .ok x) : required known name decode = .ok x := by
  obtain ⟨w, hw, hanew⟩ := h.found _ hmem
  rw [required, hw]
  exact hread w hanew

theorem Known.optional_eq (h : Known field fs known) {standard : β} (hmem : (name, v) ∈ fs)
    (hread : ∀ w, field name v w → decode w = .ok x) :
    optional known name standard decode = .ok x := by
  obtain ⟨w, hw, hanew⟩ := h.found _ hmem
  rw [optional, hw]
  exact hread w hanew

theorem Known.optional_eq_standard (h : Known field fs known) {standard : β}
    (hname : name ∉ fs.map Prod.fst) : optional known name standard decode = .ok standard := by
  rw [optional, h.absent name hname]

/-- Some fields are left out, all of which the fields of a standard value have as well. -/
structure LeavesOut (standard full fields : List (String × Value)) : Prop where
  sublist : fields.Sublist full
  standard : ∀ f ∈ full, f ∉ fields → f ∈ standard

theorem LeavesOut.refl (standard full : List (String × Value)) : LeavesOut standard full full :=
  ⟨List.Sublist.refl full, fun _ hf hno => absurd hf hno⟩

/-- A field that was left out is read as what it was. -/
theorem Known.optional_of_leavesOut {full standardFields : List (String × Value)} {standard : β}
    (h : Known (fun _ => Eq) fs known) (hout : LeavesOut standardFields full fs)
    (hnodup : (full.map Prod.fst).Nodup) (hmem : (name, v) ∈ full) (hread : decode v = .ok x)
    (hstandard : (name, v) ∈ standardFields → decode v = .ok standard) :
    optional known name standard decode = .ok x := by
  by_cases hkept : (name, v) ∈ fs
  · exact h.optional_eq hkept fun _ hw => hw ▸ hread
  · have hname : name ∉ fs.map Prod.fst := by
      intro hname
      obtain ⟨f, hf, rfl⟩ := List.mem_map.1 hname
      have hsame := List.inj_on_of_nodup_map hnodup (hout.sublist.subset hf) hmem rfl
      exact hkept (hsame ▸ hf)
    rw [h.optional_eq_standard hname, ← hstandard (hout.standard _ hmem hkept), hread]

end Reading

/-! ## Reading lists and entries -/

section Lists
variable {β : Type} {item : Value → Value → Prop} {encode : β → Value}
  {decode : Value → Except DecodeFault β} {v : Value}

theorem mapM_eq_ok {γ : Type} {read : γ → Except DecodeFault β} {ws : List γ} {xs : List β}
    (h : List.Forall₂ (fun w x => read w = .ok x) ws xs) : ws.mapM read = .ok xs := by
  induction h with
  | nil => rfl
  | cons hfirst _ ih =>
    rw [List.mapM_cons, hfirst, ih]
    rfl

theorem asList_anew {xs : List β} (h : ListAnew item (.list (xs.map encode)) v)
    (hread : ∀ x ∈ xs, ∀ w, item (encode x) w → decode w = .ok x) :
    v.asList decode = .ok xs := by
  obtain @⟨_, ws, hitems⟩ := h
  have hpairs := (List.forall₂_and_left _ _).2 ⟨hread, List.forall₂_map_left_iff.1 hitems⟩
  have hread' : List.Forall₂ (fun w x => decode w = .ok x) ws xs :=
    (hpairs.imp fun _ w h => h.1 w h.2).flip
  exact mapM_eq_ok hread'

theorem asEntries_anew {es : List (String × β)}
    (h : MapAnew item (.record (es.map fun e => (e.1, encode e.2))) v)
    (hread : ∀ e ∈ es, ∀ w, item (encode e.2) w → decode w = .ok e.2) :
    ∃ es', es'.Perm es ∧ v.asEntries decode = .ok es' := by
  obtain @⟨_, hs, gs, hentries, hperm⟩ := h
  have hpairs := (List.forall₂_and_left _ _).2 ⟨hread, List.forall₂_map_left_iff.1 hentries⟩
  have hread' : List.Forall₂ (fun g e => (decode g.2).map (fun b => (g.1, b)) = .ok e) hs es := by
    refine (hpairs.imp fun e g h => ?_).flip
    show (decode g.2).map (fun b => (g.1, b)) = .ok e
    rw [h.1 g.2 h.2.2, h.2.1]
    rfl
  obtain ⟨es', hes', hperm'⟩ := List.perm_comp_forall₂ hperm hread'
  exact ⟨es', hperm', mapM_eq_ok hes'⟩

end Lists

/-! ## Dictionaries -/

theorem ofList_of_perm_entries {β : Type} {d : Dictionary β} {l : List (String × β)}
    (h : l.Perm d.entries) : Dictionary.ofList l = d := by
  have hnodup : (l.map Prod.fst).Nodup := (h.map Prod.fst).nodup_iff.2 d.nodup_keys
  have hperm : (Dictionary.ofList l).entries.Perm d.entries :=
    (Dictionary.entries_ofList_perm hnodup).trans h
  refine Dictionary.ext_get? fun key => Option.ext fun value => ?_
  rw [← Dictionary.mem_entries_iff, ← Dictionary.mem_entries_iff, hperm.mem_iff]

end RefAtlas.Data
