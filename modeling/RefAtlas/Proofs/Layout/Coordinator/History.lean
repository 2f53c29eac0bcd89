import RefAtlas.Layout.Coordinator
import RefAtlas.Proofs.Dictionary

/-! # Histories of a coordinator

What a coordinator should do is read off the operations made on it, in whatever order they came.

* `Coordinator.step`, `Coordinator.run`, `Coordinator.calls`: one operation, and lists of them.
* `firstSize?`, `firstSizes`, `AllMeasured`: what a list of reports says about nodes.
* `Coordinator.Due`: every node has been measured and a receiver is there.
-/

namespace RefAtlas.Layout
open RefAtlas.Number
set_option autoImplicit false

variable {α κ : Type}

/-! ## Operations -/

namespace Coordinator

inductive Operation (α κ : Type) where
  | report (id : String) (size : Size α)
  | onReady (receiver : κ)
  | request

def reports (history : List (Operation α κ)) : List (String × Size α) :=
  history.filterMap fun
    | .report id size => some (id, size)
    | _ => none

def receivers (history : List (Operation α κ)) : List κ :=
  history.filterMap fun
    | .onReady receiver => some receiver
    | _ => none

theorem reports_append (history more : List (Operation α κ)) :
    reports (history ++ more) = reports history ++ reports more := List.filterMap_append

theorem receivers_append (history more : List (Operation α κ)) :
    receivers (history ++ more) = receivers history ++ receivers more := List.filterMap_append

end Coordinator

variable [Scalar α]

namespace Coordinator

/-- The coordinator after an operation, and the call made during it. -/
def step (c : Coordinator α κ) : Operation α κ → Coordinator α κ × Option (ReadyCall α κ)
  | .report id size => ((c.report id size).1, (c.report id size).2.2)
  | .onReady receiver => c.onReady receiver
  | .request => (c.request.1, c.request.2.2)

def run (c : Coordinator α κ) (operations : List (Operation α κ)) : Coordinator α κ :=
  operations.foldl (fun c o => (c.step o).1) c

def calls (c : Coordinator α κ) : List (Operation α κ) → List (ReadyCall α κ)
  | [] => []
  | o :: rest => (c.step o).2.toList ++ (c.step o).1.calls rest

theorem run_append (c : Coordinator α κ) (operations more : List (Operation α κ)) :
    c.run (operations ++ more) = (c.run operations).run more := List.foldl_append

end Coordinator

/-! ## Reports -/

/-- The first measured size that is reported for a node. -/
def firstSize? (reports : List (String × Size α)) (id : String) : Option (Size α) :=
  (reports.find? fun r => r.1 == id && r.2.isMeasured).map Prod.snd

/-- Every node has a report of a size with two positive sides. -/
def AllMeasured (nodes : List String) (reports : List (String × Size α)) : Prop :=
  ∀ id ∈ nodes, ∃ size, (id, size) ∈ reports ∧
    Scalar.lt Scalar.zero size.width = true ∧ Scalar.lt Scalar.zero size.height = true

theorem isMeasured_iff (size : Size α) : size.isMeasured = true ↔
    Scalar.lt Scalar.zero size.width = true ∧ Scalar.lt Scalar.zero size.height = true := by
  unfold Size.isMeasured Scalar.isPositive
  exact Bool.and_eq_true_iff

theorem firstSize?_append (reports more : List (String × Size α)) (id : String) :
    firstSize? (reports ++ more) id = (firstSize? reports id).or (firstSize? more id) := by
  unfold firstSize?
  rw [List.find?_append, Option.map_or]

theorem firstSize?_singleton_eq_none {other id : String} {size : Size α}
    (h : other ≠ id ∨ size.isMeasured = false) : firstSize? [(other, size)] id = none := by
  have hp : ((other == id) && size.isMeasured) = false := by
    rcases h with h | h
    · rw [beq_false_of_ne h, Bool.false_and]
    · rw [h, Bool.and_false]
  rw [firstSize?, List.find?_cons_of_neg (by rw [hp]; exact Bool.false_ne_true)]
  rfl

theorem firstSize?_singleton_self {id : String} {size : Size α} (h : size.isMeasured = true) :
    firstSize? [(id, size)] id = some size := by
  rw [firstSize?, List.find?_cons_of_pos (by simp [h])]
  rfl

theorem isSome_firstSize?_iff {reports : List (String × Size α)} {id : String} :
    (firstSize? reports id).isSome = true ↔ ∃ size, (id, size) ∈ reports ∧
      size.isMeasured = true := by
  rw [firstSize?, Option.isSome_map, List.find?_isSome]
  constructor
  · rintro ⟨⟨other, size⟩, hmem, hp⟩
    obtain ⟨hid, hm⟩ := Bool.and_eq_true_iff.1 hp
    exact ⟨size, eq_of_beq hid ▸ hmem, hm⟩
  · rintro ⟨size, hmem, hm⟩
    exact ⟨(id, size), hmem, by simp [hm]⟩

theorem allMeasured_iff {nodes : List String} {reports : List (String × Size α)} :
    AllMeasured nodes reports ↔ ∀ id ∈ nodes, (firstSize? reports id).isSome = true := by
  simp only [AllMeasured, isSome_firstSize?_iff, isMeasured_iff]

theorem AllMeasured.append {nodes : List String} {reports : List (String × Size α)}
    (h : AllMeasured nodes reports) (more : List (String × Size α)) :
    AllMeasured nodes (reports ++ more) := by
  intro id hid
  obtain ⟨size, hmem, hpos⟩ := h id hid
  exact ⟨size, List.mem_append_left _ hmem, hpos⟩

def firstSizes (nodes : List String) (reports : List (String × Size α)) : Dictionary (Size α) :=
  Dictionary.ofList
    (nodes.filterMap fun id => (firstSize? reports id).map fun size => (id, size))

theorem get?_firstSizes (nodes : List String) (reports : List (String × Size α)) (id : String) :
    (firstSizes nodes reports).get? id = if id ∈ nodes then firstSize? reports id else none :=
  Dictionary.get?_ofList_filterMap _ _ _

theorem firstSizes_append {nodes : List String} {reports : List (String × Size α)}
    (h : AllMeasured nodes reports) (more : List (String × Size α)) :
    firstSizes nodes (reports ++ more) = firstSizes nodes reports := by
  refine Dictionary.ext_get? fun id => ?_
  rw [get?_firstSizes, get?_firstSizes]
  by_cases hid : id ∈ nodes
  · rw [if_pos hid, if_pos hid, firstSize?_append,
      Option.or_of_isSome (allMeasured_iff.1 h id hid)]
  · rw [if_neg hid, if_neg hid]

namespace Coordinator

/-- A history after which the call should have been made. -/
def Due (nodes : List String) (history : List (Operation α κ)) : Prop :=
  AllMeasured nodes (reports history) ∧ receivers history ≠ []

theorem Due.append {nodes : List String} {history : List (Operation α κ)} (h : Due nodes history)
    (more : List (Operation α κ)) : Due nodes (history ++ more) := by
  refine ⟨?_, ?_⟩
  · rw [reports_append]
    exact h.1.append _
  · rw [receivers_append]
    exact List.append_ne_nil_of_left_ne_nil h.2 _

end Coordinator

end RefAtlas.Layout
