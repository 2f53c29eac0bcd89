import RefAtlas.Proofs.Layout.Coordinator.History

/-! # What a coordinator knows

Every operation first notes what it is told and then looks whether the call is due.

* `Coordinator.step_eq_takePass`: the two halves of an operation.
* `Coordinator.Agrees`: the coordinator knows what its history says. `agrees_noted` and
  `agrees_takePass` keep it; `agrees_run` is the whole run.
-/

namespace RefAtlas.Layout.Coordinator
open RefAtlas.Number
set_option autoImplicit false

variable {α κ : Type} [Scalar α]

/-! ## The two halves of an operation -/

def noteReport (c : Coordinator α κ) (id : String) (size : Size α) : Coordinator α κ :=
  match c.sizes.get? id with
  | some none => if size.isMeasured then c.record id size else c
  | _ => c

omit [Scalar α] in
def noteReceiver (c : Coordinator α κ) (receiver : κ) : Coordinator α κ :=
  if c.performed then c else { c with receiver := some receiver }

/-- The coordinator that has noted an operation and has not yet looked whether a call is due. -/
def noted (c : Coordinator α κ) : Operation α κ → Coordinator α κ
  | .report id size => c.noteReport id size
  | .onReady receiver => c.noteReceiver receiver
  | .request => c

omit [Scalar α] in
theorem takePass_of_performed {c : Coordinator α κ} (h : c.performed = true) :
    c.takePass = (c, none) := by
  simp [takePass, h]

theorem step_eq_takePass (c : Coordinator α κ) (o : Operation α κ) :
    c.step o = (c.noted o).takePass := by
  cases o with
  | report id size =>
    simp only [step, report, noted, noteReport]
    cases c.sizes.get? id with
    | none => rfl
    | some entry =>
      cases entry with
      | some known => rfl
      | none => cases size.isMeasured <;> rfl
  | onReady receiver =>
    unfold step onReady noted noteReceiver
    cases h : c.performed with
    | true => exact (takePass_of_performed h).symm
    | false => rfl
  | request => rfl

/-! ## What a coordinator knows -/

/-- The coordinator knows what its history says. -/
structure Agrees (nodes : List String) (history : List (Operation α κ)) (c : Coordinator α κ) :
    Prop where
  sizes : ∀ id, c.sizes.get? id =
    if id ∈ nodes then some (firstSize? (reports history) id) else none
  reported : c.reported = c.sizes.values.countP Option.isSome
  collecting_iff : c.phase = .collecting ↔ ¬ AllMeasured nodes (reports history)
  done_iff : c.phase = .done ↔ c.performed = true
  receiver : c.receiver = if c.performed then none else (receivers history).getLast?
  registered : c.performed = true → receivers history ≠ []

/-- No call is due any more. -/
def Settled (c : Coordinator α κ) : Prop := c.phase = .ready → c.receiver = none

section Agrees
variable {nodes : List String} {history : List (Operation α κ)} {c : Coordinator α κ}

theorem allMeasured_iff_count (h : ∀ id, c.sizes.get? id =
      if id ∈ nodes then some (firstSize? (reports history) id) else none) :
    AllMeasured nodes (reports history) ↔ c.sizes.values.countP Option.isSome = c.nodeCount := by
  rw [nodeCount, Dictionary.size_eq_length_values, List.countP_eq_length, allMeasured_iff]
  constructor
  · intro hall entry hentry
    obtain ⟨id, hid⟩ := Dictionary.mem_values_iff.1 hentry
    rw [h] at hid
    split at hid
    · rename_i hmem
      exact Option.some.inj hid ▸ hall id hmem
    · cases hid
  · intro hall id hid
    exact hall _ (Dictionary.mem_values_iff.2 ⟨id, by rw [h, if_pos hid]⟩)

omit [Scalar α] in
theorem get?_sizes_ofNodes (nodes : List String) (id : String) :
    (ofNodes nodes : Coordinator α κ).sizes.get? id = if id ∈ nodes then some none else none := by
  have h := Dictionary.get?_ofList_filterMap (fun _ => some (none : Option (Size α))) nodes id
  simp only [Option.map_some, List.filterMap_eq_map'] at h
  exact h

theorem agrees_ofNodes (nodes : List String) :
    Agrees nodes [] (ofNodes nodes : Coordinator α κ) where
  sizes := get?_sizes_ofNodes nodes
  reported := by
    refine (List.countP_eq_zero.2 fun entry hentry => ?_).symm
    obtain ⟨id, hid⟩ := Dictionary.mem_values_iff.1 hentry
    rw [get?_sizes_ofNodes] at hid
    split at hid
    · rw [← Option.some.inj hid]
      exact Bool.false_ne_true
    · cases hid
  collecting_iff := by
    cases nodes with
    | nil => simp [ofNodes, AllMeasured]
    | cons id rest =>
      refine ⟨fun _ hall => ?_, fun _ => rfl⟩
      obtain ⟨size, hmem, -⟩ := hall id List.mem_cons_self
      cases hmem
  done_iff := by
    cases nodes <;> simp [ofNodes]
  receiver := rfl
  registered h := by cases h

omit [Scalar α] in
theorem record_of_collecting (hc : c.phase = .collecting) (id : String) (size : Size α) :
    c.record id size = { c with
      sizes := c.sizes.insert id (some size)
      reported := c.reported + 1
      phase := if c.reported + 1 = (c.sizes.insert id (some size)).size then .ready
        else .collecting } := by
  unfold record nodeCount
  rw [hc]
  by_cases h : c.reported + 1 = (c.sizes.insert id (some size)).size
  · simp [h]
  · simp [h]

/-- Only the first sizes of the nodes and the receivers of a history matter. -/
theorem Agrees.congr {other : List (Operation α κ)} (h : Agrees nodes history c)
    (hs : ∀ id ∈ nodes, firstSize? (reports other) id = firstSize? (reports history) id)
    (hr : receivers other = receivers history) : Agrees nodes other c where
  sizes id := by
    rw [h.sizes]
    by_cases hid : id ∈ nodes
    · rw [if_pos hid, if_pos hid, hs id hid]
    · rw [if_neg hid, if_neg hid]
  reported := h.reported
  collecting_iff := by
    have hall : AllMeasured nodes (reports other) ↔ AllMeasured nodes (reports history) := by
      rw [allMeasured_iff, allMeasured_iff]
      exact forall₂_congr fun id hid => by rw [hs id hid]
    rw [hall, h.collecting_iff]
  done_iff := h.done_iff
  receiver := by rw [h.receiver, hr]
  registered hp := hr ▸ h.registered hp

theorem Agrees.of_get?_eq_none (h : Agrees nodes history c) {id : String}
    (hid : c.sizes.get? id = some none) : id ∈ nodes ∧ firstSize? (reports history) id = none := by
  rw [h.sizes] at hid
  split at hid
  · rename_i hmem
    exact ⟨hmem, Option.some.inj hid⟩
  · cases hid

theorem Agrees.performed_of_collecting (h : Agrees nodes history c) (hc : c.phase = .collecting) :
    c.performed = false := by
  by_contra hp
  have hdone : c.phase = .done := h.done_iff.2 (by simpa using hp)
  rw [hc] at hdone
  cases hdone

theorem firstSize?_append_report (history : List (Operation α κ)) (id other : String)
    (size : Size α) : firstSize? (reports (history ++ [.report id size])) other =
      (firstSize? (reports history) other).or (firstSize? [(id, size)] other) := by
  rw [reports_append, firstSize?_append]
  rfl

omit [Scalar α] in
theorem receivers_append_report (history : List (Operation α κ)) (id : String) (size : Size α) :
    receivers (history ++ [.report id size]) = receivers history := by
  rw [receivers_append]
  exact List.append_nil _

theorem Agrees.get?_insert (h : Agrees nodes history c) {id : String} {size : Size α}
    (hid : c.sizes.get? id = some none) (hm : size.isMeasured = true) (other : String) :
    (c.sizes.insert id (some size)).get? other = if other ∈ nodes then
      some (firstSize? (reports (history ++ [.report id size])) other) else none := by
  obtain ⟨hmem, hfirst⟩ := h.of_get?_eq_none hid
  rw [Dictionary.get?_insert, firstSize?_append_report]
  by_cases hother : other = id
  · subst hother
    rw [if_pos rfl, if_pos hmem, hfirst, Option.none_or, firstSize?_singleton_self hm]
  · rw [if_neg hother, firstSize?_singleton_eq_none (.inl (Ne.symm hother)), Option.or_none,
      h.sizes]

theorem Agrees.countP_insert (h : Agrees nodes history c) {id : String} (size : Size α)
    (hid : c.sizes.get? id = some none) :
    (c.sizes.insert id (some size)).values.countP Option.isSome = c.reported + 1 := by
  obtain ⟨before, after, hold, hnew⟩ := Dictionary.values_insert (some size) hid
  rw [hnew, h.reported, hold, List.countP_append, List.countP_append,
    List.countP_cons_of_pos rfl, List.countP_cons_of_neg Bool.false_ne_true]
  omega

/-- The first measured size of a node is recorded; it may be the last one that was missing. -/
theorem agrees_record (h : Agrees nodes history c) {id : String} {size : Size α}
    (hid : c.sizes.get? id = some none) (hm : size.isMeasured = true) :
    Agrees nodes (history ++ [.report id size]) (c.record id size) := by
  obtain ⟨hmem, hfirst⟩ := h.of_get?_eq_none hid
  have hcollecting : c.phase = .collecting := h.collecting_iff.2 fun hall => by
    have hsome := allMeasured_iff.1 hall id hmem
    rw [hfirst] at hsome
    cases hsome
  have hperformed := h.performed_of_collecting hcollecting
  have hall : AllMeasured nodes (reports (history ++ [.report id size])) ↔
      c.reported + 1 = (c.sizes.insert id (some size)).size := by
    rw [← h.countP_insert size hid]
    exact allMeasured_iff_count (c := { c with sizes := c.sizes.insert id (some size) })
      (h.get?_insert hid hm)
  rw [record_of_collecting hcollecting]
  refine ⟨h.get?_insert hid hm, (h.countP_insert size hid).symm, ?_, ?_, ?_, ?_⟩
  · rw [hall]
    by_cases hcount : c.reported + 1 = (c.sizes.insert id (some size)).size
    · simp [hcount]
    · simp [hcount]
  · rw [hperformed]
    by_cases hcount : c.reported + 1 = (c.sizes.insert id (some size)).size
    · simp [hcount]
    · simp [hcount]
  · rw [receivers_append_report]
    exact h.receiver
  · rw [receivers_append_report]
    exact h.registered

theorem agrees_noteReport (h : Agrees nodes history c) (id : String) (size : Size α) :
    Agrees nodes (history ++ [.report id size]) (c.noteReport id size) := by
  -- a report that says nothing new about the registered nodes does not count
  have ignored (hno : ∀ other ∈ nodes, (firstSize? (reports history) other).or
      (firstSize? [(id, size)] other) = firstSize? (reports history) other) :
      Agrees nodes (history ++ [.report id size]) c :=
    h.congr (fun other hother => by rw [firstSize?_append_report, hno other hother])
      (receivers_append_report history id size)
  have hsizes := h.sizes id
  rw [noteReport]
  cases hget : c.sizes.get? id with
  | none =>
    refine ignored fun other hother => ?_
    have hne : id ≠ other := by
      rintro rfl
      rw [hget, if_pos hother] at hsizes
      cases hsizes
    rw [firstSize?_singleton_eq_none (.inl hne), Option.or_none]
  | some entry =>
    cases entry with
    | some known =>
      refine ignored fun other hother => ?_
      by_cases hne : id = other
      · subst hne
        rw [hget, if_pos hother] at hsizes
        rw [← Option.some.inj hsizes, Option.some_or]
      · rw [firstSize?_singleton_eq_none (.inl hne), Option.or_none]
    | none =>
      cases hm : size.isMeasured with
      | true => exact agrees_record h hget hm
      | false =>
        refine ignored fun other hother => ?_
        rw [firstSize?_singleton_eq_none (.inr hm), Option.or_none]

theorem agrees_noteReceiver (h : Agrees nodes history c) (receiver : κ) :
    Agrees nodes (history ++ [.onReady receiver]) (c.noteReceiver receiver) := by
  have hreports : reports (history ++ [.onReady receiver]) = reports history := by
    rw [reports_append]
    exact List.append_nil _
  have hreceivers : receivers (history ++ [.onReady receiver]) =
      receivers history ++ [receiver] := by
    rw [receivers_append]
    rfl
  have hregistered : receivers (history ++ [.onReady receiver]) ≠ [] := by
    rw [hreceivers]
    exact List.concat_ne_nil _ _
  have hsizes : ∀ id, c.sizes.get? id = if id ∈ nodes then
      some (firstSize? (reports (history ++ [.onReady receiver])) id) else none := by
    rw [hreports]
    exact h.sizes
  have hcollecting : c.phase = .collecting ↔
      ¬ AllMeasured nodes (reports (history ++ [.onReady receiver])) := by
    rw [hreports]
    exact h.collecting_iff
  rw [noteReceiver]
  by_cases hp : c.performed = true
  · rw [if_pos hp]
    refine ⟨hsizes, h.reported, hcollecting, h.done_iff, ?_, fun _ => hregistered⟩
    rw [h.receiver, if_pos hp, if_pos hp]
  · rw [if_neg hp]
    refine ⟨hsizes, h.reported, hcollecting, h.done_iff, ?_, fun _ => hregistered⟩
    rw [hreceivers, List.getLast?_concat, if_neg hp]

theorem agrees_noted (h : Agrees nodes history c) (o : Operation α κ) :
    Agrees nodes (history ++ [o]) (c.noted o) := by
  cases o with
  | report id size => exact agrees_noteReport h id size
  | onReady receiver => exact agrees_noteReceiver h receiver
  | request =>
    refine h.congr (fun id _ => ?_) ?_
    · rw [reports_append, firstSize?_append]
      exact Option.or_none
    · rw [receivers_append]
      exact List.append_nil _

theorem Agrees.ready_iff (h : Agrees nodes history c) : c.phase = .ready ↔
    AllMeasured nodes (reports history) ∧ c.performed = false := by
  have hc := h.collecting_iff
  have hd := h.done_iff
  cases hphase : c.phase with
  | collecting =>
    rw [hphase] at hc
    simp [hc.1 rfl]
  | ready =>
    rw [hphase] at hc hd
    simp at hc hd
    simp [hc, hd]
  | done =>
    rw [hphase] at hd
    simp [hd.1 rfl]

omit [Scalar α] in
theorem takePass_of_ready {receiver : κ} (hc : c.phase = .ready) (hp : c.performed = false)
    (hr : c.receiver = some receiver) : c.takePass =
      ({ c with receiver := none, performed := true, phase := .done },
        some ⟨receiver, c.measured⟩) := by
  unfold takePass
  rw [hc, hp, hr]
  rfl

omit [Scalar α] in
theorem takePass_of_not_ready
    (h : ¬ (c.phase = .ready ∧ c.performed = false ∧ ∃ receiver, c.receiver = some receiver)) :
    c.takePass = (c, none) := by
  unfold takePass
  split
  · rename_i hc
    obtain ⟨hphase, hp⟩ := Bool.and_eq_true_iff.1 hc
    cases hr : c.receiver with
    | none => rfl
    | some receiver => exact absurd ⟨eq_of_beq hphase, by simpa using hp, receiver, hr⟩ h
  · rfl

omit [Scalar α] in
theorem takePass_eq_some_iff {call : ReadyCall α κ} : c.takePass.2 = some call ↔
    (c.phase = .ready ∧ c.performed = false) ∧ c.receiver = some call.receiver ∧
      call.sizes = c.measured := by
  by_cases h : c.phase = .ready ∧ c.performed = false ∧ ∃ receiver, c.receiver = some receiver
  · obtain ⟨hc, hp, receiver, hr⟩ := h
    rw [takePass_of_ready hc hp hr, hr]
    constructor
    · intro hcall
      obtain rfl := Option.some.inj hcall
      exact ⟨⟨hc, hp⟩, rfl, rfl⟩
    · rintro ⟨-, hr', hs⟩
      rw [Option.some.inj hr', ← hs]
  · rw [takePass_of_not_ready h]
    refine ⟨fun hcall => (Option.some_ne_none _ hcall.symm).elim, ?_⟩
    rintro ⟨⟨hc, hp⟩, hr, -⟩
    exact absurd ⟨hc, hp, _, hr⟩ h

/-- Looking whether the call is due keeps what is known, and afterwards it is not due. -/
theorem agrees_takePass (h : Agrees nodes history c) :
    Agrees nodes history c.takePass.1 ∧ Settled c.takePass.1 := by
  by_cases hready : c.phase = .ready ∧ c.performed = false ∧ ∃ receiver, c.receiver = some receiver
  · obtain ⟨hc, hp, receiver, hr⟩ := hready
    have hall := (h.ready_iff.1 hc).1
    have hregistered : receivers history ≠ [] := by
      intro hnil
      have hreceiver := h.receiver
      rw [hr, if_neg (by simp [hp]), hnil] at hreceiver
      cases hreceiver
    rw [takePass_of_ready hc hp hr]
    exact ⟨⟨h.sizes, h.reported, by simp [hall], by simp, rfl, fun _ => hregistered⟩, nofun⟩
  · rw [takePass_of_not_ready hready]
    refine ⟨h, fun hc => ?_⟩
    cases hr : c.receiver with
    | none => rfl
    | some receiver => exact absurd ⟨hc, (h.ready_iff.1 hc).2, receiver, hr⟩ hready

/-- The run lemma: after every history the coordinator knows what the history says. -/
theorem agrees_run (nodes : List String) (history : List (Operation α κ)) :
    Agrees nodes history ((ofNodes nodes).run history) ∧
      Settled ((ofNodes nodes).run history) := by
  induction history using List.reverseRecOn with
  | nil => exact ⟨agrees_ofNodes nodes, fun _ => rfl⟩
  | append_singleton history o ih =>
    have hrun : (ofNodes nodes).run (history ++ [o]) =
        (((ofNodes nodes).run history).noted o).takePass.1 := by
      rw [run_append, ← step_eq_takePass]
      rfl
    rw [hrun]
    exact agrees_takePass (agrees_noted ih.1 o)

end Agrees

end RefAtlas.Layout.Coordinator
