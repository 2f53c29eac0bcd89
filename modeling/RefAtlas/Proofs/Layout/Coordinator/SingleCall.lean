import RefAtlas.Proofs.Layout.Coordinator.Agreement
import RefAtlas.Proofs.Number.Rational

/-! # The one call of a coordinator

* `Coordinator.length_calls_le`: a run makes at most one call.
* `Coordinator.isSome_step_iff`: it is made during the operation after which it is due first.
* `Coordinator.single_call`: both, and who is called with what.
-/

namespace RefAtlas.Layout.Coordinator
open RefAtlas.Number
set_option autoImplicit false

variable {α κ : Type} [Scalar α]

section Agrees
variable {nodes : List String} {history : List (Operation α κ)} {c : Coordinator α κ}

theorem Agrees.performed_iff (h : Agrees nodes history c) (hs : Settled c) :
    c.performed = true ↔ Due nodes history := by
  constructor
  · intro hp
    have hdone := h.done_iff.2 hp
    refine ⟨?_, h.registered hp⟩
    by_contra hall
    have hcollecting := h.collecting_iff.2 hall
    rw [hdone] at hcollecting
    cases hcollecting
  · rintro ⟨hall, hregistered⟩
    by_contra hp
    have hreceiver := h.receiver
    rw [if_neg hp, hs (h.ready_iff.2 ⟨hall, by simpa using hp⟩)] at hreceiver
    exact hregistered (List.getLast?_eq_none_iff.1 hreceiver.symm)

omit [Scalar α] in
theorem mem_measured_entries {key : String} {size : Size α} :
    (key, size) ∈ (c.sizes.entries.filterMap fun e => e.2.map fun size => (e.1, size)) ↔
      c.sizes.get? key = some (some size) := by
  simp only [List.mem_filterMap, Option.map_eq_some_iff, Prod.mk.injEq, Prod.exists,
    ← Dictionary.mem_entries_iff]
  constructor
  · rintro ⟨_, _, he, _, rfl, rfl, rfl⟩
    exact he
  · intro he
    exact ⟨key, some size, he, size, rfl, rfl, rfl⟩

theorem Agrees.measured_eq (h : Agrees nodes history c) :
    c.measured = firstSizes nodes (reports history) := by
  refine Dictionary.ext_get? fun id => Option.ext fun size => ?_
  rw [measured, Dictionary.get?_ofList_eq_some_iff, mem_measured_entries, h.sizes, get?_firstSizes]
  · split
    · exact Option.some_inj
    · simp
  · intro key v w hv hw
    rw [mem_measured_entries] at hv hw
    exact Option.some.inj (Option.some.inj (hv.symm.trans hw))

end Agrees

omit [Scalar α] in
theorem performed_record (c : Coordinator α κ) (id : String) (size : Size α) :
    (c.record id size).performed = c.performed := by
  unfold record
  dsimp only
  split <;> rfl

theorem performed_noted (c : Coordinator α κ) (o : Operation α κ) :
    (c.noted o).performed = c.performed := by
  cases o with
  | report id size =>
    rw [noted, noteReport]
    split
    · split
      · exact performed_record c id size
      · rfl
    · rfl
  | onReady receiver =>
    rw [noted, noteReceiver]
    split <;> rfl
  | request => rfl

omit [Scalar α] in
theorem performed_of_takePass {c : Coordinator α κ} {call : ReadyCall α κ}
    (h : c.takePass.2 = some call) : c.takePass.1.performed = true := by
  obtain ⟨⟨hc, hp⟩, hr, -⟩ := takePass_eq_some_iff.1 h
  rw [takePass_of_ready hc hp hr]

/-- Once a call has been made, none follows. -/
theorem length_calls_le (c : Coordinator α κ) (operations : List (Operation α κ)) :
    (c.calls operations).length ≤ if c.performed then 0 else 1 := by
  induction operations generalizing c with
  | nil => exact Nat.zero_le _
  | cons o rest ih =>
    have hrest := ih (c.step o).1
    rw [calls, List.length_append]
    rw [step_eq_takePass] at hrest ⊢
    by_cases hp : c.performed = true
    · have hnoted : (c.noted o).performed = true := (performed_noted c o).trans hp
      rw [takePass_of_performed hnoted, if_pos hnoted] at hrest
      rw [takePass_of_performed hnoted, if_pos hp]
      exact (Nat.zero_add _).trans_le hrest
    · rw [if_neg hp]
      cases hcall : (c.noted o).takePass.2 with
      | none =>
        refine (Nat.zero_add _).trans_le (hrest.trans ?_)
        split <;> omega
      | some call =>
        rw [if_pos (performed_of_takePass hcall)] at hrest
        exact Nat.add_le_add_left hrest 1

theorem isSome_step_iff (nodes : List String) (before : List (Operation α κ))
    (o : Operation α κ) : (((ofNodes nodes).run before).step o).2.isSome = true ↔
      Due nodes (before ++ [o]) ∧ ¬ Due nodes before := by
  obtain ⟨hagrees, hsettled⟩ := agrees_run (α := α) (κ := κ) nodes before
  have hnoted := agrees_noted hagrees o
  rw [← hagrees.performed_iff hsettled, ← performed_noted _ o, step_eq_takePass,
    Option.isSome_iff_exists]
  constructor
  · rintro ⟨call, hcall⟩
    obtain ⟨hready, hr, -⟩ := takePass_eq_some_iff.1 hcall
    have hreceiver := hnoted.receiver
    rw [hr, hready.2] at hreceiver
    refine ⟨⟨(hnoted.ready_iff.1 hready.1).1, ?_⟩, by simp [hready.2]⟩
    intro hnil
    rw [hnil] at hreceiver
    cases hreceiver
  · rintro ⟨⟨hall, hregistered⟩, hp⟩
    have hperformed := Bool.eq_false_of_not_eq_true hp
    have hreceiver := hnoted.receiver
    rw [if_neg hp, List.getLast?_eq_some_getLast hregistered] at hreceiver
    exact ⟨⟨_, _⟩, takePass_eq_some_iff.2
      ⟨⟨hnoted.ready_iff.2 ⟨hall, hperformed⟩, hperformed⟩, hreceiver, rfl⟩⟩

/-- Whom an operation calls, and with what. -/
theorem step_eq_some {nodes : List String} {before : List (Operation α κ)} {o : Operation α κ}
    {call : ReadyCall α κ} (h : (((ofNodes nodes).run before).step o).2 = some call) :
    (receivers (before ++ [o])).getLast? = some call.receiver ∧
      call.sizes = firstSizes nodes (reports (before ++ [o])) := by
  have hnoted := agrees_noted (agrees_run (α := α) (κ := κ) nodes before).1 o
  rw [step_eq_takePass] at h
  obtain ⟨⟨-, hp⟩, hr, hsizes⟩ := takePass_eq_some_iff.1 h
  have hreceiver := hnoted.receiver
  rw [hr, hp] at hreceiver
  exact ⟨hreceiver.symm, hsizes.trans hnoted.measured_eq⟩

/-- In every run at most one receiver is called. The call is made during the first operation after
which every node is measured and a receiver is registered. The receiver registered last is called,
with exactly the registered nodes, each with its first measured size. -/
theorem single_call (nodes : List String) :
    (∀ history : List (Operation α κ), ((ofNodes nodes).calls history).length ≤ 1) ∧
    ∀ (before : List (Operation α κ)) (o : Operation α κ),
      ((((ofNodes nodes).run before).step o).2.isSome = true ↔
        Due nodes (before ++ [o]) ∧ ∀ earlier, earlier <+: before → ¬ Due nodes earlier) ∧
      ∀ call, (((ofNodes nodes).run before).step o).2 = some call →
        (receivers (before ++ [o])).getLast? = some call.receiver ∧
        (∀ id, call.sizes.contains id = true ↔ id ∈ nodes) ∧
        ∀ id ∈ nodes, call.sizes.get? id = firstSize? (reports (before ++ [o])) id := by
  refine ⟨fun history => length_calls_le _ history, fun before o => ⟨?_, fun call hcall => ?_⟩⟩
  · rw [isSome_step_iff]
    refine and_congr_right fun _ => ⟨?_, fun h => h before (List.prefix_refl _)⟩
    rintro hno earlier ⟨more, rfl⟩ hearlier
    exact hno (hearlier.append more)
  · have hdue := (isSome_step_iff nodes before o).1 (by rw [hcall]; rfl)
    have hall := allMeasured_iff.1 hdue.1.1
    obtain ⟨hreceiver, hsizes⟩ := step_eq_some hcall
    refine ⟨hreceiver, fun id => ?_, fun id hid => ?_⟩
    · rw [Dictionary.contains, hsizes, get?_firstSizes]
      by_cases hid : id ∈ nodes
      · simp [hid, hall id hid]
      · simp [hid]
    · rw [hsizes, get?_firstSizes, if_pos hid]

/-- A receiver is replaced while one of two nodes is missing, of which a size without a height has
been reported. -/
def replacedReceiver : List (Operation ℚ String) :=
  [.onReady "early", .report "Cart" ⟨30, 10⟩, .report "Item" ⟨20, 0⟩, .onReady "late",
    .report "Cart" ⟨70, 70⟩]

theorem single_call_replacedReceiver : ∃ call,
    (((ofNodes ["Cart", "Item"]).run replacedReceiver).step (.report "Item" ⟨20, 5⟩)).2 =
      some call ∧
    call.receiver = "late" ∧ call.sizes.get? "Cart" = some ⟨30, 10⟩ ∧
    call.sizes.get? "Item" = some ⟨20, 5⟩ := by
  obtain ⟨-, hsteps⟩ := single_call (α := ℚ) (κ := String) ["Cart", "Item"]
  obtain ⟨-, hcalled⟩ := hsteps replacedReceiver (.report "Item" ⟨20, 5⟩)
  have hsome : (((ofNodes ["Cart", "Item"]).run replacedReceiver).step
      (.report "Item" ⟨20, 5⟩)).2.isSome = true := by decide
  obtain ⟨call, hcall⟩ := Option.isSome_iff_exists.1 hsome
  obtain ⟨hreceiver, -, hsizes⟩ := hcalled call hcall
  refine ⟨call, hcall, (Option.some.inj hreceiver).symm, ?_, ?_⟩
  · exact (hsizes "Cart" (by decide)).trans (by decide)
  · exact (hsizes "Item" (by decide)).trans (by decide)

end RefAtlas.Layout.Coordinator
