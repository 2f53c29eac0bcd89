import RefAtlas.Layout.Data
import RefAtlas.Proofs.Data.Anew
import RefAtlas.Proofs.Number.Rational
import RefAtlas.Reference.Data

/-! # Values are read back

What `toValue` writes is what `decode` reads, also when it is written anew: with the fields of its
records moved, with further fields, and, for settings, without fields that have their standard value.

* `Anew` of a type: its values written anew, at every level.
* `decode_anew` of a type: what was written is read back.
* `encoded_values_read_back`: nodes of graphs, settings of extraction and arrangements.
-/

namespace RefAtlas
open RefAtlas.Data RefAtlas.Number
set_option autoImplicit false

theorem Dictionary.decode_anew {β : Type} {item : Value → Value → Prop} {encode : β → Value}
    {decode : Value → Except DecodeFault β} {d : Dictionary β} {v : Value}
    (h : MapAnew item (d.toValue encode) v)
    (hread : ∀ x ∈ d.values, ∀ w, item (encode x) w → decode w = .ok x) :
    Dictionary.decode decode v = .ok d := by
  have hentries : ∀ e ∈ d.entries, ∀ w, item (encode e.2) w → decode w = .ok e.2 :=
    fun e he => hread e.2 (List.mem_map_of_mem he)
  obtain ⟨entries, hperm, hdecode⟩ := asEntries_anew h hentries
  rw [Dictionary.decode, hdecode, ← ofList_of_perm_entries hperm]
  rfl

/-! ## Nodes -/

namespace Graph

def Property.Anew : Value → Value → Prop := RecordAnew ["label", "value"] fun _ => Eq

def Node.Anew : Value → Value → Prop :=
  RecordAnew ["id", "group", "properties"] fun name =>
    if name = "properties" then ListAnew Property.Anew else Eq

theorem Property.anew_refl (p : Property) : Property.Anew p.toValue p.toValue :=
  RecordAnew.refl fun _ _ => rfl

theorem Property.decode_anew {p : Property} {v : Value} (h : Property.Anew p.toValue v) :
    Property.decode v = .ok p := by
  obtain ⟨known, hfields, hknown⟩ := h.exists_known .json (by simp) (by simp)
  have hlabel : required known "label" Value.asText = .ok p.label :=
    hknown.required_eq (v := .text p.label) (by simp) fun _ hw => hw ▸ rfl
  have hvalue : required known "value" Value.asText = .ok p.value :=
    hknown.required_eq (v := .text p.value) (by simp) fun _ hw => hw ▸ rfl
  simp only [Property.decode, bind, Except.bind, hfields, hlabel, hvalue]
  rfl

theorem Node.anew_refl (n : Node) : Node.Anew n.toValue n.toValue := by
  have hproperties : ListAnew Property.Anew (.list (n.properties.map Property.toValue))
      (.list (n.properties.map Property.toValue)) :=
    ListAnew.refl (List.forall_mem_map.2 fun p _ => p.anew_refl)
  refine RecordAnew.refl fun f hf => ?_
  rcases List.mem_append.1 hf with hf | hf
  · rcases List.mem_cons.1 hf with rfl | hf
    · rfl
    · obtain ⟨group, _, rfl⟩ := List.mem_map.1 hf
      rfl
  · split at hf
    · cases hf
    · cases List.mem_singleton.1 hf
      exact hproperties

/-- A node without a group, or without properties, is written without these fields. -/
theorem Node.decode_anew {n : Node} {v : Value} (h : Node.Anew n.toValue v) :
    Node.decode v = .ok n := by
  obtain ⟨id, group, properties⟩ := n
  obtain ⟨known, hfields, hknown⟩ := h.exists_known .json (by simp)
    (by cases group <;> cases properties <;> simp)
  have hid : required known "id" Value.asText = .ok id :=
    hknown.required_eq (v := .text id) (by simp) fun _ (hw : _ = _) => hw ▸ rfl
  have hgroup : optional known "group" none (Value.asOption Value.asText) = .ok group := by
    cases group with
    | none => exact hknown.optional_eq_standard (by cases properties <;> simp)
    | some group =>
      exact hknown.optional_eq (v := .text group) (by simp) fun _ (hw : _ = _) => hw ▸ rfl
  have hproperties :
      optional known "properties" [] (Value.asList Property.decode) = .ok properties := by
    cases properties with
    | nil => exact hknown.optional_eq_standard (by cases group <;> simp)
    | cons p rest =>
      refine hknown.optional_eq (v := .list ((p :: rest).map Property.toValue)) (by simp)
        fun w hw => ?_
      exact asList_anew hw fun _ _ _ => Property.decode_anew
  simp only [Node.decode, bind, Except.bind, hfields, hid, hgroup, hproperties]
  rfl

end Graph

/-! ## Geometry -/

namespace Layout
variable {α : Type} [Scalar α]

/-- A coordinate that is read from what is written for it. -/
def ReadsBack (x : α) : Prop := (Value.ofScalar x).asScalar = .ok x

instance [DecidableEq α] (x : α) : Decidable (ReadsBack x) :=
  inferInstanceAs (Decidable ((Value.ofScalar x).asScalar = .ok x))

def Size.coordinates (s : Size α) : List α := [s.width, s.height]

def Rect.coordinates (r : Rect α) : List α := [r.x, r.y, r.width, r.height]

def Size.Anew : Value → Value → Prop := RecordAnew ["width", "height"] fun _ => Eq

def Rect.Anew : Value → Value → Prop := RecordAnew ["x", "y", "width", "height"] fun _ => Eq

theorem Size.anew_refl (s : Size α) : Size.Anew s.toValue s.toValue := RecordAnew.refl fun _ _ => rfl

theorem Rect.anew_refl (r : Rect α) : Rect.Anew r.toValue r.toValue := RecordAnew.refl fun _ _ => rfl

theorem required_scalar {fs known : List (String × Value)} {x : α}
    (h : Known (fun _ => Eq) fs known) (name : String) (hmem : (name, Value.ofScalar x) ∈ fs)
    (hx : ReadsBack x) : required known name Value.asScalar = .ok x :=
  h.required_eq hmem fun _ hw => hw ▸ hx

theorem Size.decode_anew (dialect : Dialect) {s : Size α} {v : Value}
    (hcodec : ∀ x ∈ s.coordinates, ReadsBack x) (h : Size.Anew s.toValue v) :
    Size.decode dialect v = .ok s := by
  simp only [coordinates, List.forall_mem_cons, List.not_mem_nil, false_imp_iff,
    implies_true, and_true] at hcodec
  obtain ⟨hw, hh⟩ := hcodec
  obtain ⟨known, hfields, hknown⟩ := h.exists_known dialect (by simp) (by simp)
  have hwidth := required_scalar hknown "width" (by simp) hw
  have hheight := required_scalar hknown "height" (by simp) hh
  simp only [Size.decode, bind, Except.bind, hfields, hwidth, hheight]
  rfl

theorem Rect.decode_anew {r : Rect α} {v : Value} (hcodec : ∀ x ∈ r.coordinates, ReadsBack x)
    (h : Rect.Anew r.toValue v) : Rect.decode v = .ok r := by
  simp only [coordinates, List.forall_mem_cons, List.not_mem_nil, false_imp_iff,
    implies_true, and_true] at hcodec
  obtain ⟨hx, hy, hw, hh⟩ := hcodec
  obtain ⟨known, hfields, hknown⟩ := h.exists_known .json (by simp) (by simp)
  have hleft := required_scalar hknown "x" (by simp) hx
  have htop := required_scalar hknown "y" (by simp) hy
  have hwidth := required_scalar hknown "width" (by simp) hw
  have hheight := required_scalar hknown "height" (by simp) hh
  simp only [Rect.decode, bind, Except.bind, hfields, hleft, htop, hwidth, hheight]
  rfl

/-! ## Arrangements -/

def NodeBox.Anew : Value → Value → Prop :=
  RecordAnew ["id", "rect"] fun name => if name = "rect" then Rect.Anew else Eq

def GroupBox.Anew : Value → Value → Prop :=
  RecordAnew ["name", "rect", "nodes"] fun name =>
    if name = "rect" then Rect.Anew
    else if name = "nodes" then ListAnew NodeBox.Anew
    else Eq

def Arrangement.Anew : Arrangement α → Value → Value → Prop
  | .grouped _ _ => RecordAnew ["kind", "groups", "size"] fun name =>
    if name = "groups" then ListAnew GroupBox.Anew
    else if name = "size" then Size.Anew
    else Eq
  | .flat _ => RecordAnew ["kind", "nodes"] fun name =>
    if name = "nodes" then MapAnew Rect.Anew else Eq

def GroupBox.coordinates (g : GroupBox α) : List α :=
  g.rect.coordinates ++ g.nodes.flatMap fun n => n.rect.coordinates

def Arrangement.coordinates : Arrangement α → List α
  | .grouped groups size => groups.flatMap GroupBox.coordinates ++ size.coordinates
  | .flat nodes => nodes.values.flatMap Rect.coordinates

theorem NodeBox.anew_refl (n : NodeBox α) : NodeBox.Anew n.toValue n.toValue := by
  refine RecordAnew.refl fun f hf => ?_
  simp only [List.mem_cons, List.not_mem_nil, or_false] at hf
  obtain rfl | rfl := hf
  · rfl
  · exact n.rect.anew_refl

theorem NodeBox.decode_anew {n : NodeBox α} {v : Value}
    (hcodec : ∀ x ∈ n.rect.coordinates, ReadsBack x) (h : NodeBox.Anew n.toValue v) :
    NodeBox.decode v = .ok n := by
  obtain ⟨known, hfields, hknown⟩ := h.exists_known .json (by simp) (by simp)
  have hid : required known "id" Value.asText = .ok n.id :=
    hknown.required_eq (v := .text n.id) (by simp) fun _ (hw : _ = _) => hw ▸ rfl
  have hrect : required known "rect" Rect.decode = .ok n.rect :=
    hknown.required_eq (v := n.rect.toValue) (by simp) fun _ hw => Rect.decode_anew hcodec hw
  simp only [NodeBox.decode, bind, Except.bind, hfields, hid, hrect]
  rfl

theorem GroupBox.anew_refl (g : GroupBox α) : GroupBox.Anew g.toValue g.toValue := by
  refine RecordAnew.refl fun f hf => ?_
  simp only [List.mem_cons, List.not_mem_nil, or_false] at hf
  obtain rfl | rfl | rfl := hf
  · rfl
  · exact g.rect.anew_refl
  · exact ListAnew.refl (List.forall_mem_map.2 fun n _ => n.anew_refl)

theorem GroupBox.decode_anew {g : GroupBox α} {v : Value}
    (hcodec : ∀ x ∈ g.coordinates, ReadsBack x) (h : GroupBox.Anew g.toValue v) :
    GroupBox.decode v = .ok g := by
  rw [coordinates, List.forall_mem_append] at hcodec
  obtain ⟨known, hfields, hknown⟩ := h.exists_known .json (by simp) (by simp)
  have hname : required known "name" Value.asText = .ok g.name :=
    hknown.required_eq (v := .text g.name) (by simp) fun _ (hw : _ = _) => hw ▸ rfl
  have hrect : required known "rect" Rect.decode = .ok g.rect :=
    hknown.required_eq (v := g.rect.toValue) (by simp) fun _ hw => Rect.decode_anew hcodec.1 hw
  have hnodes : required known "nodes" (Value.asList NodeBox.decode) = .ok g.nodes := by
    refine hknown.required_eq (v := .list (g.nodes.map NodeBox.toValue)) (by simp) fun w hw => ?_
    refine asList_anew hw fun n hn w hw => NodeBox.decode_anew (fun x hx => ?_) hw
    exact hcodec.2 x (List.mem_flatMap_of_mem hn hx)
  simp only [GroupBox.decode, bind, Except.bind, hfields, hname, hrect, hnodes]
  rfl

theorem Arrangement.anew_refl (a : Arrangement α) : a.Anew a.toValue a.toValue := by
  cases a with
  | grouped groups size =>
    refine RecordAnew.refl fun f hf => ?_
    simp only [List.mem_cons, List.not_mem_nil, or_false] at hf
    obtain rfl | rfl | rfl := hf
    · rfl
    · exact ListAnew.refl (List.forall_mem_map.2 fun g _ => g.anew_refl)
    · exact size.anew_refl
  | flat nodes =>
    refine RecordAnew.refl fun f hf => ?_
    simp only [List.mem_cons, List.not_mem_nil, or_false] at hf
    obtain rfl | rfl := hf
    · rfl
    · exact MapAnew.refl (List.forall_mem_map.2 fun e _ => e.2.anew_refl)

/-- The kind of an arrangement is read first, wherever it stands, and the rest by that kind. -/
theorem Arrangement.decode_anew {a : Arrangement α} {v : Value}
    (hcodec : ∀ x ∈ a.coordinates, ReadsBack x) (h : a.Anew a.toValue v) :
    Arrangement.decode v = .ok a := by
  cases a with
  | grouped groups size =>
    rw [coordinates, List.forall_mem_append] at hcodec
    -- The rest of the record is read as a record with the fields of its shape only.
    obtain ⟨gs, kind, rfl, hfilter, hkind, hrest⟩ := h.untag (by simp) (by simp)
    obtain rfl : .text "grouped" = kind := by simpa using hkind
    obtain ⟨known, hfields, hknown⟩ := hrest.exists_known .json (by simp) (by simp)
    have hgroups : required known "groups" (Value.asList GroupBox.decode) = .ok groups := by
      refine hknown.required_eq (v := .list (groups.map GroupBox.toValue)) (by simp) fun w hw => ?_
      refine asList_anew hw fun g hg w hw => GroupBox.decode_anew (fun x hx => ?_) hw
      exact hcodec.1 x (List.mem_flatMap_of_mem hg hx)
    have hsize : required known "size" (Size.decode .json) = .ok size :=
      hknown.required_eq (v := size.toValue) (by simp) fun _ hw =>
        Size.decode_anew .json hcodec.2 hw
    have hshape : decodeShape .grouped (.record (gs.filter fun g => g.1 != "kind")) =
        .ok (Arrangement.grouped groups size) := by
      simp only [decodeShape, bind, Except.bind, hfields, hgroups, hsize]
      rfl
    simp only [decode, hfilter]
    exact hshape
  | flat nodes =>
    obtain ⟨gs, kind, rfl, hfilter, hkind, hrest⟩ := h.untag (by simp) (by simp)
    obtain rfl : .text "flat" = kind := by simpa using hkind
    obtain ⟨known, hfields, hknown⟩ := hrest.exists_known .json (by simp) (by simp)
    have hnodes : required known "nodes" (Dictionary.decode Rect.decode) = .ok nodes := by
      refine hknown.required_eq (v := nodes.toValue Rect.toValue) (by simp) fun w hw => ?_
      refine Dictionary.decode_anew hw fun r hr w hw =>
        Rect.decode_anew (fun x hx => ?_) hw
      exact hcodec x (List.mem_flatMap_of_mem hr hx)
    have hshape : decodeShape .flat (.record (gs.filter fun g => g.1 != "kind")) =
        .ok (Arrangement.flat nodes) := by
      simp only [decodeShape, bind, Except.bind, hfields, hnodes]
      rfl
    simp only [decode, hfilter]
    exact hshape

end Layout

/-! ## Settings of extraction -/

namespace Reference

theorem Rule.decode_toValue (dialect : Dialect) (rule : Rule) :
    Rule.decode dialect rule.toValue = .ok rule := by
  cases rule <;> rfl

theorem asList_map {β : Type} {encode : β → Value} {decode : Value → Except DecodeFault β}
    (h : ∀ x, decode (encode x) = .ok x) (xs : List β) :
    Value.asList decode (.list (xs.map encode)) = .ok xs := by
  have hsame : ListAnew Eq (.list (xs.map encode)) (.list (xs.map encode)) :=
    ListAnew.refl fun _ _ => rfl
  exact asList_anew hsame fun x _ _ hw => hw ▸ h x

theorem asNatural_ofNat {n : Nat} (h : n < Text.naturalLimit) : (Value.ofNat n).asNatural = .ok n :=
  if_pos h

namespace ExtractionConfig

theorem nodup_fieldNames : fieldNames.Nodup := by decide

/-- The settings without some fields that have their standard value. -/
def LeavesOutStandard (config : ExtractionConfig) : List (String × Value) → Prop :=
  LeavesOut standard.toValue.fields config.toValue.fields

section Reading
variable {config : ExtractionConfig} {fields known : List (String × Value)}

theorem optional_part {β : Type} (hout : config.LeavesOutStandard fields)
    (hknown : Known (fun _ => Eq) fields known) (name : String) (write : ExtractionConfig → Value)
    (part : ExtractionConfig → β) (decode : Value → Except DecodeFault β)
    (hwrite : ∀ c : ExtractionConfig, (name, write c) ∈ c.toValue.fields)
    (hread : decode (write config) = .ok (part config))
    (hstandard : decode (write standard) = .ok (part standard)) :
    optional known name (part standard) decode = .ok (part config) := by
  refine hknown.optional_of_leavesOut hout nodup_fieldNames (hwrite config) hread fun hmem => ?_
  have hnodup : (standard.toValue.fields.map Prod.fst).Nodup := nodup_fieldNames
  have hsame := List.inj_on_of_nodup_map hnodup hmem (hwrite standard) rfl
  rw [(Prod.mk.inj hsame).2]
  exact hstandard

theorem decode_anew (dialect : Dialect) {v : Value} (hsize : config.maxFileSize < Text.naturalLimit)
    (hout : config.LeavesOutStandard fields)
    (h : RecordAnew fieldNames (fun _ => Eq) (.record fields) v) :
    decode dialect v = .ok config := by
  have hsub : (fields.map Prod.fst).Sublist fieldNames := hout.sublist.map Prod.fst
  obtain ⟨known, hfields, hknown⟩ := h.exists_known dialect nodup_fieldNames hsub
  have hlist := asList_map (Rule.decode_toValue dialect)
  have htexts : ∀ texts, (Value.ofTexts texts).asList Value.asText = .ok texts :=
    asList_map fun _ => rfl
  have hrules := optional_part hout hknown "rules" (fun c => .list (c.rules.map Rule.toValue)) rules
    (Value.asList (Rule.decode dialect)) (by simp [toValue, Value.fields]) (hlist _) (hlist _)
  have hexpand := optional_part hout hknown "expand_aliases" (fun c => .bool c.expandAliases)
    expandAliases Value.asBool (by simp [toValue, Value.fields]) rfl rfl
  have hlimit := optional_part hout hknown "max_file_size_bytes" (fun c => .ofNat c.maxFileSize)
    maxFileSize Value.asNatural (by simp [toValue, Value.fields]) (asNatural_ofNat hsize) rfl
  have hextensions := optional_part hout hknown "extensions" (fun c => .ofTexts c.extensions)
    extensions (Value.asList Value.asText) (by simp [toValue, Value.fields]) (htexts _) (htexts _)
  simp only [decode, bind, Except.bind, hfields, hrules, hexpand, hlimit, hextensions]
  rfl

end Reading
end ExtractionConfig
end Reference

/-! ## All of them -/

open RefAtlas.Graph RefAtlas.Reference RefAtlas.Layout

theorem encoded_values_read_back {α : Type} [Scalar α] :
    (∀ n : Node, Node.decode n.toValue = .ok n ∧
      ∀ v, Node.Anew n.toValue v → Node.decode v = .ok n) ∧
    (∀ (dialect : Dialect) (config : ExtractionConfig), config.maxFileSize < Text.naturalLimit →
      ExtractionConfig.decode dialect config.toValue = .ok config ∧
      ∀ fields v, config.LeavesOutStandard fields →
        RecordAnew ExtractionConfig.fieldNames (fun _ => Eq) (.record fields) v →
          ExtractionConfig.decode dialect v = .ok config) ∧
    (∀ a : Arrangement α, (∀ x ∈ a.coordinates, Scalar.isFinite x = true) →
      (∀ x ∈ a.coordinates, Scalar.isFinite x = true → ReadsBack x) →
      Arrangement.decode a.toValue = .ok a ∧
      ∀ v, a.Anew a.toValue v → Arrangement.decode v = .ok a) := by
  refine ⟨fun n => ⟨Node.decode_anew n.anew_refl, fun v => Node.decode_anew⟩, ?_, ?_⟩
  · intro dialect config hsize
    have hanew : ∀ fields v, config.LeavesOutStandard fields →
        RecordAnew ExtractionConfig.fieldNames (fun _ => Eq) (.record fields) v →
          ExtractionConfig.decode dialect v = .ok config :=
      fun _ _ hout h => ExtractionConfig.decode_anew dialect hsize hout h
    exact ⟨hanew _ _ (LeavesOut.refl _ _) (RecordAnew.refl fun _ _ => rfl), hanew⟩
  · intro a hfinite hcodec
    have hreads : ∀ x ∈ a.coordinates, ReadsBack x := fun x hx => hcodec x hx (hfinite x hx)
    exact ⟨Arrangement.decode_anew hreads a.anew_refl, fun v => Arrangement.decode_anew hreads⟩

/-- Two nodes, one of which is called like the field that tells the shape. -/
def kindAndCart : Dictionary (Rect ℚ) :=
  ⟨[("Cart", ⟨1 / 2, -3, 120, 40⟩), ("kind", ⟨130, 0, 60, 1 / 10⟩)], by decide⟩

theorem kindAndCart_readsBack : ∀ x ∈ (Arrangement.flat kindAndCart).coordinates, ReadsBack x := by
  decide +kernel

theorem encoded_values_read_back_moved :
    Node.decode (.record [("note", .null),
      ("properties", .list [.record [("value", .text "2"), ("label", .text "uses")]]),
      ("group", .text ""), ("id", .text "Cart")]) = .ok ⟨"Cart", some "", [⟨"uses", "2"⟩]⟩ ∧
    ExtractionConfig.decode .json (.record [("note", .null), ("rules", .list [.text "fields"])]) =
      .ok { ExtractionConfig.standard with rules := [.fields] } ∧
    Arrangement.decode (.record [("note", .null),
      ("nodes", .record [
        ("kind", .record [("height", .ofScalar (1 / 10 : ℚ)), ("width", .ofScalar (60 : ℚ)),
          ("y", .ofScalar (0 : ℚ)), ("x", .ofScalar (130 : ℚ))]),
        ("Cart", (⟨1 / 2, -3, 120, 40⟩ : Rect ℚ).toValue)]),
      ("kind", .text "flat")]) = .ok (Arrangement.flat kindAndCart) := by
  obtain ⟨hnodes, hsettings, harrangements⟩ := encoded_values_read_back (α := ℚ)
  refine ⟨(hnodes ⟨"Cart", some "", [⟨"uses", "2"⟩]⟩).2 _ ?_, ?_, ?_⟩
  · have hproperty : Property.Anew (Property.mk "uses" "2").toValue
        (.record [("value", .text "2"), ("label", .text "uses")]) :=
      .reversed [("label", .text "uses"), ("value", .text "2")] []
        (List.forall₂_same.2 fun _ _ => ⟨rfl, rfl⟩) (by simp)
    have hproperties : ListAnew Property.Anew (.list [(Property.mk "uses" "2").toValue])
        (.list [.record [("value", .text "2"), ("label", .text "uses")]]) :=
      .intro (.cons hproperty .nil)
    exact .reversed [("id", .text "Cart"), ("group", .text ""),
      ("properties", .list [.record [("value", .text "2"), ("label", .text "uses")]])]
      [("note", .null)] (.cons ⟨rfl, rfl⟩ (.cons ⟨rfl, rfl⟩ (.cons ⟨rfl, hproperties⟩ .nil))) (by simp)
  · have hout : ExtractionConfig.LeavesOutStandard
        { ExtractionConfig.standard with rules := [.fields] } [("rules", .list [.text "fields"])] :=
      ⟨(List.nil_sublist _).cons_cons _, fun f hf hno =>
        List.mem_cons_of_mem _ ((List.mem_cons.1 hf).resolve_left fun h =>
          hno (List.mem_singleton.2 h))⟩
    refine (hsettings .json _ (by decide)).2 _ _ hout ?_
    exact .reversed [("rules", .list [.text "fields"])] [("note", .null)]
      (List.forall₂_same.2 fun _ _ => ⟨rfl, rfl⟩) (by simp [ExtractionConfig.fieldNames])
  · have hfinite : ∀ x ∈ (Arrangement.flat kindAndCart).coordinates, Scalar.isFinite x = true :=
      fun _ _ => rfl
    have hkind : Rect.Anew (⟨130, 0, 60, 1 / 10⟩ : Rect ℚ).toValue
        (.record [("height", .ofScalar (1 / 10 : ℚ)), ("width", .ofScalar (60 : ℚ)),
          ("y", .ofScalar (0 : ℚ)), ("x", .ofScalar (130 : ℚ))]) :=
      .reversed (⟨130, 0, 60, 1 / 10⟩ : Rect ℚ).toValue.fields []
        (List.forall₂_same.2 fun _ _ => ⟨rfl, rfl⟩) (by simp)
    have hentries : MapAnew Rect.Anew (kindAndCart.toValue Rect.toValue) (.record [
        ("kind", .record [("height", .ofScalar (1 / 10 : ℚ)), ("width", .ofScalar (60 : ℚ)),
          ("y", .ofScalar (0 : ℚ)), ("x", .ofScalar (130 : ℚ))]),
        ("Cart", (⟨1 / 2, -3, 120, 40⟩ : Rect ℚ).toValue)]) := by
      refine .intro ?_ (List.Perm.swap _ _ _)
      exact .cons ⟨rfl, Rect.anew_refl _⟩ (.cons ⟨rfl, hkind⟩ .nil)
    refine (harrangements _ hfinite fun x hx _ => kindAndCart_readsBack x hx).2 _ ?_
    exact .reversed [("kind", .text "flat"), ("nodes", _)] [("note", .null)]
      (.cons ⟨rfl, rfl⟩ (.cons ⟨rfl, hentries⟩ .nil)) (by simp)

end RefAtlas
