import Mathlib.Data.List.Dedup
import RefAtlas.Proofs.Layout.Coordinator.Agreement
import RefAtlas.Proofs.Number.Rational

/-! # What holds of a coordinator at any time

* `Coordinator.Consistent`: the fields of a coordinator fit together; `Agrees.consistent` finds them
  so after every history.
* `Coordinator.phase_le_run`, `Coordinator.step_of_done`: phases only move forward, and nothing
  happens behind the last one.
* `Coordinator.run_invariant`: all of it, together with what a report answers.
-/

namespace RefAtlas.Layout
open RefAtlas.Number
set_option autoImplicit false

def Phase.index : Phase → Nat
  | .collecting => 0
  | .ready => 1
  | .done => 2

namespace Coordinator

variable {α κ : Type}

def isRecorded (c : Coordinator α κ) (id : String) : Bool := (c.sizes.get? id).join.isSome

/-- The counter, the phase, the flag, the table and the receiver of a coordinator fit together. -/
structure Consistent (nodes : List String) (c : Coordinator α κ) : Prop where
  registered : ∀ id, c.sizes.contains id = true ↔ id ∈ nodes
  reported : c.reported = nodes.dedup.countP c.isRecorded
  collecting_iff : c.phase = .collecting ↔ c.reported < nodes.dedup.length
  done_iff : c.phase = .done ↔ c.performed = true
  idle : c.phase ≠ .collecting → c.receiver = none

/-! ## Counting -/

section Counting
variable {nodes : List String} {c : Coordinator α κ}

theorem keys_perm_dedup (h : ∀ id, c.sizes.contains id = true ↔ id ∈ nodes) :
    c.sizes.keys.Perm nodes.dedup := by
  refine (List.perm_ext_iff_of_nodup c.sizes.nodup_keys (List.nodup_dedup nodes)).2 fun id => ?_
  rw [Dictionary.mem_keys_iff, List.mem_dedup, ← h, Dictionary.contains, Option.isSome_iff_exists]

theorem countP_values (h : ∀ id, c.sizes.contains id = true ↔ id ∈ nodes) :
    c.sizes.values.countP Option.isSome = nodes.dedup.countP c.isRecorded := by
  have hentries : ∀ e ∈ c.sizes.entries, e.2.isSome = true ↔ c.isRecorded e.1 = true := by
    intro e he
    have hget : c.sizes.get? e.1 = some e.2 := Dictionary.mem_entries_iff.1 he
    rw [isRecorded, hget, Option.join_some]
  rw [← (keys_perm_dedup h).countP_eq, Dictionary.values, Dictionary.keys, List.countP_map,
    List.countP_map]
  exact List.countP_congr hentries

theorem nodeCount_eq (h : ∀ id, c.sizes.contains id = true ↔ id ∈ nodes) :
    c.nodeCount = nodes.dedup.length := by
  rw [← (keys_perm_dedup h).length_eq, Dictionary.keys, List.length_map]
  rfl

end Counting

variable [Scalar α]

section Agrees
variable {nodes : List String} {history : List (Operation α κ)} {c : Coordinator α κ}

theorem Agrees.contains_iff (h : Agrees nodes history c) (id : String) :
    c.sizes.contains id = true ↔ id ∈ nodes := by
  rw [Dictionary.contains, h.sizes]
  by_cases hid : id ∈ nodes
  · simp [hid]
  · simp [hid]

theorem Agrees.consistent (h : Agrees nodes history c) (hs : Settled c) : Consistent nodes c where
  registered := h.contains_iff
  reported := h.reported.trans (countP_values h.contains_iff)
  collecting_iff := by
    have hle : c.sizes.values.countP Option.isSome ≤ c.nodeCount := by
      rw [nodeCount, Dictionary.size_eq_length_values]
      exact List.countP_le_length
    rw [h.collecting_iff, allMeasured_iff_count h.sizes, h.reported, ← nodeCount_eq h.contains_iff]
    omega
  done_iff := h.done_iff
  idle hphase := by
    cases hc : c.phase with
    | collecting => exact absurd hc hphase
    | ready => exact hs hc
    | done => rw [h.receiver, if_pos (h.done_iff.1 hc)]

omit [Scalar α] in
theorem takePass_of_settled (h : Settled c) : c.takePass = (c, none) := by
  refine takePass_of_not_ready ?_
  rintro ⟨hready, -, receiver, hr⟩
  rw [h hready] at hr
  cases hr

/-! ## Answers to reports -/

theorem outcome_report (c : Coordinator α κ) (id : String) (size : Size α) :
    (c.report id size).2.1 = match c.sizes.get? id with
      | none => .unknownNode
      | some (some _) => .alreadyReported
      | some none => if size.isMeasured then .recorded else .degenerate := rfl

theorem Agrees.outcome_eq (h : Agrees nodes history c) (id : String) (size : Size α) :
    (c.report id size).2.1 =
      if id ∈ nodes then
        if (firstSize? (reports history) id).isSome then .alreadyReported
        else if size.isMeasured then .recorded else .degenerate
      else .unknownNode := by
  rw [outcome_report, h.sizes]
  by_cases hid : id ∈ nodes
  · rw [if_pos hid, if_pos hid]
    cases firstSize? (reports history) id with
    | none => rfl
    | some earlier => rfl
  · rw [if_neg hid, if_neg hid]

theorem noteReport_of_outcome_ne {id : String} {size : Size α}
    (h : (c.report id size).2.1 ≠ .recorded) : c.noteReport id size = c := by
  rw [outcome_report] at h
  rw [noteReport]
  cases hget : c.sizes.get? id with
  | none => rfl
  | some entry =>
    rw [hget] at h
    cases entry with
    | some known => rfl
    | none =>
      refine if_neg fun hm => h ?_
      rw [hm]
      rfl

theorem report_of_outcome_ne (hs : Settled c) {id : String} {size : Size α}
    (h : (c.report id size).2.1 ≠ .recorded) : c.step (.report id size) = (c, none) := by
  rw [step_eq_takePass, noted, noteReport_of_outcome_ne h, takePass_of_settled hs]

/-! ## Phases -/

omit [Scalar α] in
theorem phase_le_record (c : Coordinator α κ) (id : String) (size : Size α) :
    c.phase.index ≤ (c.record id size).phase.index := by
  unfold record
  dsimp only
  split
  · rename_i h
    have hcollecting : c.phase = .collecting := eq_of_beq (Bool.and_eq_true_iff.1 h).1
    rw [hcollecting]
    exact Nat.zero_le _
  · exact Nat.le_refl _

theorem phase_le_noted (c : Coordinator α κ) (o : Operation α κ) :
    c.phase.index ≤ (c.noted o).phase.index := by
  cases o with
  | report id size =>
    rw [noted, noteReport]
    split
    · split
      · exact phase_le_record c id size
      · exact Nat.le_refl _
    · exact Nat.le_refl _
  | onReady receiver =>
    rw [noted, noteReceiver]
    split
    · exact Nat.le_refl _
    · exact Nat.le_refl _
  | request => exact Nat.le_refl _

omit [Scalar α] in
theorem phase_le_takePass (c : Coordinator α κ) : c.phase.index ≤ c.takePass.1.phase.index := by
  by_cases h : c.phase = .ready ∧ c.performed = false ∧ ∃ receiver, c.receiver = some receiver
  · obtain ⟨hc, hp, receiver, hr⟩ := h
    rw [takePass_of_ready hc hp hr, hc]
    exact Nat.le_succ 1
  · rw [takePass_of_not_ready h]

theorem phase_le_step (c : Coordinator α κ) (o : Operation α κ) :
    c.phase.index ≤ (c.step o).1.phase.index := by
  rw [step_eq_takePass]
  exact (phase_le_noted c o).trans (phase_le_takePass (c.noted o))

/-- The run lemma: no list of operations leads back to an earlier phase. -/
theorem phase_le_run (c : Coordinator α κ) (operations : List (Operation α κ)) :
    c.phase.index ≤ (c.run operations).phase.index := by
  induction operations generalizing c with
  | nil => exact Nat.le_refl _
  | cons o rest ih => exact (phase_le_step c o).trans (ih (c.step o).1)

/-- Once the call has been made, every operation leaves everything as it is. -/
theorem step_of_done (h : Agrees nodes history c) (hdone : c.phase = .done) (o : Operation α κ) :
    c.step o = (c, none) := by
  have hperformed := h.done_iff.1 hdone
  have hnoted : c.noted o = c := by
    cases o with
    | report id size =>
      refine noteReport_of_outcome_ne fun hrecorded => ?_
      rw [h.outcome_eq] at hrecorded
      by_cases hid : id ∈ nodes
      · have hall : AllMeasured nodes (reports history) := by
          by_contra hall
          have hcollecting := h.collecting_iff.2 hall
          rw [hdone] at hcollecting
          cases hcollecting
        rw [if_pos hid, if_pos (allMeasured_iff.1 hall id hid)] at hrecorded
        cases hrecorded
      · rw [if_neg hid] at hrecorded
        cases hrecorded
    | onReady receiver => rw [noted, noteReceiver, if_pos hperformed]
    | request => rfl
  rw [step_eq_takePass, hnoted, takePass_of_performed hperformed]

end Agrees

/-- After every run the fields of a coordinator fit together and no request makes a call. A report
is answered by whether its node is registered, has been measured before and is measured now, and
changes nothing unless it is recorded. Phases only move forward, and the last one is final. -/
theorem run_invariant (nodes : List String) (history : List (Operation α κ)) :
    let c : Coordinator α κ := (ofNodes nodes).run history
    let measuredBefore (id : String) := ∃ size, (id, size) ∈ reports history ∧ size.isMeasured = true
    Consistent nodes c ∧ c.request = (c, false, none) ∧
    (∀ id size,
      ((c.report id size).2.1 = .unknownNode ↔ id ∉ nodes) ∧
      ((c.report id size).2.1 = .alreadyReported ↔ id ∈ nodes ∧ measuredBefore id) ∧
      ((c.report id size).2.1 = .recorded ↔
        id ∈ nodes ∧ ¬ measuredBefore id ∧ size.isMeasured = true) ∧
      ((c.report id size).2.1 = .degenerate ↔
        id ∈ nodes ∧ ¬ measuredBefore id ∧ size.isMeasured = false) ∧
      ((c.report id size).2.1 ≠ .recorded → (c.report id size).1 = c)) ∧
    (∀ more, c.phase.index ≤ (c.run more).phase.index) ∧
    (c.phase = .done → ∀ o, c.step o = (c, none)) := by
  intro c measuredBefore
  obtain ⟨hagrees, hsettled⟩ := agrees_run (α := α) (κ := κ) nodes history
  refine ⟨hagrees.consistent hsettled, ?_, fun id size => ?_, phase_le_run c,
    step_of_done hagrees⟩
  · rw [request, takePass_of_settled hsettled]
    rfl
  · have hbefore : measuredBefore id ↔ (firstSize? (reports history) id).isSome = true :=
      isSome_firstSize?_iff.symm
    rw [hagrees.outcome_eq, hbefore]
    refine ⟨?_, ?_, ?_, ?_, fun hne => ?_⟩
    · grind
    · grind
    · grind
    · grind
    · rw [← hagrees.outcome_eq] at hne
      exact congrArg Prod.fst (report_of_outcome_ne hsettled hne)

/-- One node of two is measured, and a size without a height is reported for the other one. -/
def halfReported : List (Operation ℚ String) :=
  [.onReady "screen", .report "Cart" ⟨30, 10⟩, .report "Item" ⟨20, 0⟩]

theorem run_invariant_halfReported :
    let c : Coordinator ℚ String := (ofNodes ["Cart", "Item"]).run halfReported
    let done := c.run [.report "Item" ⟨20, 5⟩]
    (c.report "Cart" ⟨70, 70⟩).2.1 ≠ .recorded ∧ (c.report "Cart" ⟨70, 70⟩).1 = c ∧
    done.phase = .done ∧ done.step (.onReady "late") = (done, none) := by
  intro c done
  obtain ⟨-, -, hreports, -, -⟩ := run_invariant ["Cart", "Item"] halfReported
  obtain ⟨-, hknown, -, -, hkept⟩ := hreports "Cart" ⟨70, 70⟩
  have houtcome : (c.report "Cart" ⟨70, 70⟩).2.1 = .alreadyReported :=
    hknown.2 ⟨by decide, ⟨30, 10⟩, List.mem_cons_self, by decide⟩
  have hne : (c.report "Cart" ⟨70, 70⟩).2.1 ≠ .recorded := by
    rw [houtcome]
    decide
  obtain ⟨-, -, -, -, hfinal⟩ :=
    run_invariant ["Cart", "Item"] (halfReported ++ [.report "Item" ⟨20, 5⟩])
  have hdone : done.phase = .done := by decide
  exact ⟨hne, hkept hne, hdone, hfinal hdone (.onReady "late")⟩

end Coordinator

end RefAtlas.Layout
