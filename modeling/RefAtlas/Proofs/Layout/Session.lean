import RefAtlas.Layout.Session
import RefAtlas.Proofs.Layout.Config
import RefAtlas.Proofs.Layout.Coordinator.SingleCall

/-! # A session draws once

A session draws nothing before every node of its plan has been measured. From then on it has drawn
the layout of the first measured sizes, and nothing more.

* `LayoutConfig.force_valid`, `Plan.exists_arrange`: with settings that were accepted, every layout
  succeeds, because the simulation looks at its settings again and finds the same.
* `Session.Follows`: what a session has drawn after a list of reports; `follows_report` keeps it and
  `follows_reportAll` is the whole run.
* `Session.draws_once`: what a target receives.
-/

namespace RefAtlas.Layout
open RefAtlas.Number
set_option autoImplicit false

variable {α : Type} [Scalar α]

/-! ## Settings that were accepted -/

theorem LayoutConfig.force_valid {config : LayoutConfig α} (h : config.validate = .ok ()) :
    config.force.validate = .ok () :=
  (LayoutConfig.validate_eq_ok_iff.1 h).2.1

theorem Plan.exists_arrange {config : LayoutConfig α} (h : config.force.validate = .ok ())
    (plan : Plan) (mode : Mode) (sizes : Dictionary (Size α)) :
    ∃ a, plan.arrange mode sizes config = .ok a := by
  cases mode with
  | force =>
    unfold Plan.arrange simulate
    rw [h]
    exact ⟨_, rfl⟩
  | grid => exact ⟨_, rfl⟩
  | grouped => exact ⟨_, rfl⟩
  | uniform => exact ⟨_, rfl⟩

namespace Session
open Coordinator

/-! ## Reports to a session -/

def reportAll (s : Session α) (reports : List (String × Size α)) : Session α :=
  reports.foldl (fun s r => (s.report r.1 r.2).1) s

/-- What the target of a session that was asked for has received; nothing without a session. -/
def received : Except ConfigFault (Session α) → List (Placement α)
  | .ok s => s.drawn
  | .error _ => []

/-- What was done to the coordinator of a session. -/
def history (reports : List (String × Size α)) : List (Operation α Unit) :=
  .onReady () :: reports.map fun r => .report r.1 r.2

theorem reportAll_append (s : Session α) (reports more : List (String × Size α)) :
    s.reportAll (reports ++ more) = (s.reportAll reports).reportAll more := List.foldl_append

omit [Scalar α] in
theorem history_append (reports : List (String × Size α)) (r : String × Size α) :
    history (reports ++ [r]) = history reports ++ [.report r.1 r.2] := by
  simp [history]

omit [Scalar α] in
theorem reports_history (rs : List (String × Size α)) : reports (history rs) = rs := by
  have hmap : ∀ l : List (String × Size α),
      reports (l.map fun r => Operation.report (κ := Unit) r.1 r.2) = l := by
    intro l
    induction l with
    | nil => rfl
    | cons r rest ih => exact congrArg (r :: ·) ih
  exact hmap rs

omit [Scalar α] in
theorem receivers_history (rs : List (String × Size α)) : receivers (history rs) = [()] := by
  have hmap : ∀ l : List (String × Size α),
      receivers (l.map fun r => Operation.report (κ := Unit) r.1 r.2) = [] := by
    intro l
    induction l with
    | nil => rfl
    | cons r rest ih => exact ih
  exact congrArg (() :: ·) (hmap rs)

theorem due_history_iff {nodes : List String} {rs : List (String × Size α)} :
    Due nodes (history rs) ↔ AllMeasured nodes rs := by
  rw [Due, reports_history, receivers_history]
  simp

/-! ## What a session has drawn -/

/-- What a session of a plan has done after a list of reports. -/
structure Follows (plan : Plan) (mode : Mode) (config : LayoutConfig α)
    (rs : List (String × Size α)) (s : Session α) : Prop where
  plan_eq : s.plan = plan
  mode_eq : s.mode = mode
  config_eq : s.config = config
  coordinator_eq : s.coordinator = (ofNodes plan.nodes).run (history rs)
  waiting : ¬ AllMeasured plan.nodes rs → s.drawn = [] ∧ s.result = none
  finished : AllMeasured plan.nodes rs →
    ∃ a, plan.arrange mode (firstSizes plan.nodes rs) config = .ok a ∧
      s.drawn = a.placements ∧ s.result = some a

section Follows
variable {plan : Plan} {mode : Mode} {config : LayoutConfig α} {s : Session α}

theorem perform_some {call : ReadyCall α Unit} {a : Arrangement α}
    (h : s.plan.arrange s.mode call.sizes s.config = .ok a) :
    s.perform (some call) = { s with drawn := s.drawn ++ a.placements, result := some a } := by
  simp only [perform, h]

/-- Starting and reporting are one operation of the coordinator and the call it may make. -/
theorem follows_perform (hconfig : config.validate = .ok ()) {before : List (Operation α Unit)}
    {o : Operation α Unit} {rs : List (String × Size α)} (hrs : history rs = before ++ [o])
    (hplan : s.plan = plan) (hmode : s.mode = mode) (hconf : s.config = config)
    (hcoordinator : s.coordinator = (((ofNodes plan.nodes).run before).step o).1)
    (hwaiting : ¬ Due plan.nodes before → s.drawn = [] ∧ s.result = none)
    (hfinished : Due plan.nodes before →
      ∃ a, plan.arrange mode (firstSizes plan.nodes rs) config = .ok a ∧
        s.drawn = a.placements ∧ s.result = some a) :
    Follows plan mode config rs (s.perform (((ofNodes plan.nodes).run before).step o).2) := by
  have hcoordinator' : s.coordinator = (ofNodes plan.nodes).run (history rs) := by
    rw [hcoordinator, hrs, run_append]
    rfl
  have hdue : Due plan.nodes (before ++ [o]) ↔ AllMeasured plan.nodes rs := by
    rw [← hrs, due_history_iff]
  have hstep := isSome_step_iff plan.nodes before o
  rw [hdue] at hstep
  cases hcall : (((ofNodes plan.nodes).run before).step o).2 with
  | none =>
    rw [hcall] at hstep
    refine ⟨hplan, hmode, hconf, hcoordinator', fun hno => ?_, fun hall => ?_⟩
    · exact hwaiting fun hbefore => hno (hdue.1 (hbefore.append [o]))
    · refine hfinished ?_
      by_contra hbefore
      cases hstep.2 ⟨hall, hbefore⟩
  | some call =>
    rw [hcall] at hstep
    obtain ⟨hall, hbefore⟩ := hstep.1 rfl
    obtain ⟨hdrawn, -⟩ := hwaiting hbefore
    have hsizes := (step_eq_some hcall).2
    rw [← hrs, reports_history] at hsizes
    obtain ⟨a, ha⟩ := Plan.exists_arrange (LayoutConfig.force_valid hconfig) plan mode
      (firstSizes plan.nodes rs)
    rw [perform_some (a := a) (by rw [hplan, hmode, hconf, hsizes, ha])]
    refine ⟨hplan, hmode, hconf, hcoordinator', fun hno => absurd hall hno, fun _ => ?_⟩
    exact ⟨a, ha, by rw [hdrawn, List.nil_append], rfl⟩

theorem follows_start (hconfig : config.validate = .ok ()) (plan : Plan) (mode : Mode) :
    ∃ s, start plan mode config = .ok s ∧ Follows plan mode config [] s := by
  have hstart : start plan mode config = .ok (perform
      ⟨plan, mode, config, (((ofNodes plan.nodes).run []).step (.onReady ())).1, [], none⟩
      (((ofNodes plan.nodes).run []).step (.onReady ())).2) := by
    unfold start
    rw [hconfig]
    rfl
  have hnot : ¬ Due plan.nodes ([] : List (Operation α Unit)) := fun h => h.2 rfl
  exact ⟨_, hstart, follows_perform hconfig rfl rfl rfl rfl rfl (fun _ => ⟨rfl, rfl⟩)
    fun h => absurd h hnot⟩

theorem follows_report (hconfig : config.validate = .ok ()) {rs : List (String × Size α)}
    (h : Follows plan mode config rs s) (id : String) (size : Size α) :
    Follows plan mode config (rs ++ [(id, size)]) (s.report id size).1 := by
  have hreport : (s.report id size).1 =
      perform { s with coordinator := (s.coordinator.step (.report id size)).1 }
        (s.coordinator.step (.report id size)).2 := rfl
  rw [hreport, h.coordinator_eq]
  refine follows_perform hconfig (history_append rs (id, size)) h.plan_eq h.mode_eq h.config_eq rfl
    (fun hno => h.waiting fun hall => hno (due_history_iff.2 hall)) fun hdue => ?_
  have hall := due_history_iff.1 hdue
  rw [firstSizes_append hall]
  exact h.finished hall

/-- The run lemma: a session that was started follows its reports. -/
theorem follows_reportAll (hconfig : config.validate = .ok ())
    (h : Follows plan mode config [] s) (rs : List (String × Size α)) :
    Follows plan mode config rs (s.reportAll rs) := by
  induction rs using List.reverseRecOn with
  | nil => exact h
  | append_singleton rs r ih =>
    rw [reportAll_append]
    exact follows_report hconfig ih r.1 r.2

theorem Follows.isDone_iff {rs : List (String × Size α)} (h : Follows plan mode config rs s) :
    s.isDone = true ↔ AllMeasured plan.nodes rs := by
  obtain ⟨hagrees, hsettled⟩ := agrees_run (α := α) plan.nodes (history rs)
  rw [← due_history_iff, ← hagrees.performed_iff hsettled, ← hagrees.done_iff,
    ← h.coordinator_eq]
  exact beq_iff_eq

theorem Follows.result_isSome_iff {rs : List (String × Size α)}
    (h : Follows plan mode config rs s) :
    s.result.isSome = true ↔ AllMeasured plan.nodes rs := by
  constructor
  · intro hsome
    by_contra hno
    rw [(h.waiting hno).2] at hsome
    cases hsome
  · intro hall
    obtain ⟨a, -, -, hresult⟩ := h.finished hall
    rw [hresult]
    rfl

theorem Follows.eq_of_firstSizes_eq {rs rs' : List (String × Size α)} {s' : Session α}
    (h : Follows plan mode config rs s) (h' : Follows plan mode config rs' s')
    (hsizes : firstSizes plan.nodes rs = firstSizes plan.nodes rs') :
    s.drawn = s'.drawn ∧ s.result = s'.result := by
  have hall : AllMeasured plan.nodes rs ↔ AllMeasured plan.nodes rs' := by
    rw [allMeasured_iff, allMeasured_iff]
    refine forall₂_congr fun id hid => ?_
    have hid' := congrArg (fun d => d.get? id) hsizes
    simp only [get?_firstSizes, if_pos hid] at hid'
    rw [hid']
  by_cases hrs : AllMeasured plan.nodes rs
  · obtain ⟨a, ha, hdrawn, hresult⟩ := h.finished hrs
    obtain ⟨a', ha', hdrawn', hresult'⟩ := h'.finished (hall.1 hrs)
    rw [hsizes, ha'] at ha
    obtain rfl := Except.ok.inj ha
    exact ⟨hdrawn.trans hdrawn'.symm, hresult.trans hresult'.symm⟩
  · obtain ⟨hdrawn, hresult⟩ := h.waiting hrs
    obtain ⟨hdrawn', hresult'⟩ := h'.waiting fun hrs' => hrs (hall.2 hrs')
    exact ⟨hdrawn.trans hdrawn'.symm, hresult.trans hresult'.symm⟩

end Follows

/-- With settings that make no sense there is no session and nothing is drawn. Otherwise nothing is
drawn before every node of the plan is measured; from then on exactly the layout of the first sizes
has been drawn, which is the result and stays it. -/
theorem draws_once (plan : Plan) (mode : Mode) (config : LayoutConfig α) :
    (∀ fault, config.validate = .error fault → start plan mode config = .error fault ∧
      received (start plan mode config) = []) ∧
    (config.validate = .ok () → ∃ s, start plan mode config = .ok s ∧
      (plan.nodes = [] → s.isDone = true) ∧
      ∀ rs,
        (¬ AllMeasured plan.nodes rs →
          (s.reportAll rs).drawn = [] ∧ (s.reportAll rs).result = none) ∧
        (AllMeasured plan.nodes rs →
          ∃ a, plan.arrange mode (firstSizes plan.nodes rs) config = .ok a ∧
            ∀ more, (s.reportAll (rs ++ more)).drawn = a.placements ∧
              (s.reportAll (rs ++ more)).result = some a) ∧
        ((s.reportAll rs).isDone = true ↔ (s.reportAll rs).result.isSome = true) ∧
        ∀ rs', firstSizes plan.nodes rs = firstSizes plan.nodes rs' →
          (s.reportAll rs).drawn = (s.reportAll rs').drawn ∧
            (s.reportAll rs).result = (s.reportAll rs').result) := by
  constructor
  · intro fault hfault
    have hstart : start plan mode config = .error fault := by
      unfold start
      rw [hfault]
      rfl
    exact ⟨hstart, by rw [hstart]; rfl⟩
  · intro hconfig
    obtain ⟨s, hstart, hs⟩ := follows_start hconfig plan mode
    have hrun := follows_reportAll hconfig hs
    refine ⟨s, hstart, fun hnil => ?_, fun rs => ⟨(hrun rs).waiting, fun hall => ?_, ?_, ?_⟩⟩
    · refine hs.isDone_iff.2 fun id hid => ?_
      rw [hnil] at hid
      cases hid
    · obtain ⟨a, ha, -, -⟩ := (hrun rs).finished hall
      refine ⟨a, ha, fun more => ?_⟩
      obtain ⟨a', ha', hdrawn, hresult⟩ := (hrun (rs ++ more)).finished (hall.append more)
      rw [firstSizes_append hall, ha] at ha'
      obtain rfl := Except.ok.inj ha'
      exact ⟨hdrawn, hresult⟩
    · rw [(hrun rs).isDone_iff, (hrun rs).result_isSome_iff]
    · exact fun rs' hsizes => (hrun rs).eq_of_firstSizes_eq (hrun rs') hsizes

def joinedPair : Plan := ⟨["Cart", "Item"], .empty, [⟨"Cart", "Item"⟩], []⟩

/-- Settings whose batches hold no node. -/
def withoutBatches : LayoutConfig ℚ := { LayoutConfig.standard with batch := ⟨10, 0⟩ }

theorem draws_once_joinedPair :
    let half : List (String × Size ℚ) := [("Cart", ⟨30, 10⟩)]
    let both := half ++ [("Item", ⟨20, 5⟩)]
    withoutBatches.validate = .error .emptyBatches ∧
    received (start joinedPair .grouped withoutBatches) = [] ∧
    (LayoutConfig.standard (α := ℚ)).validate = .ok () ∧
    ∃ s a, start joinedPair .grouped LayoutConfig.standard = .ok s ∧
      ¬ AllMeasured joinedPair.nodes half ∧ (s.reportAll half).drawn = [] ∧
      AllMeasured joinedPair.nodes both ∧
      joinedPair.arrange .grouped (firstSizes joinedPair.nodes both) LayoutConfig.standard = .ok a ∧
      (s.reportAll (both ++ [("Cart", ⟨70, 70⟩)])).drawn = a.placements := by
  intro half both
  have hfault : withoutBatches.validate = .error .emptyBatches := by
    obtain ⟨hgrid, hforce, huniform, -⟩ := LayoutConfig.validate_eq_ok_iff.1 validate_standard_rat
    rw [LayoutConfig.validate, withoutBatches, hgrid, hforce, huniform]
    rfl
  obtain ⟨hrefused, -⟩ := draws_once joinedPair .grouped withoutBatches
  obtain ⟨-, haccepted⟩ := draws_once joinedPair .grouped (LayoutConfig.standard (α := ℚ))
  obtain ⟨s, hs, -, hreports⟩ := haccepted validate_standard_rat
  have hwaiting : ¬ AllMeasured joinedPair.nodes half := fun h => by
    obtain ⟨size, hmem, -⟩ := h "Item" (by decide)
    simp [half] at hmem
  have hall : AllMeasured joinedPair.nodes both :=
    List.forall_mem_cons.2 ⟨⟨⟨30, 10⟩, List.mem_cons_self, by decide⟩,
      List.forall_mem_singleton.2
        ⟨⟨20, 5⟩, List.mem_cons_of_mem _ List.mem_cons_self, by decide⟩⟩
  obtain ⟨hnothing, -⟩ := (hreports half).1 hwaiting
  obtain ⟨a, ha, hdrawn⟩ := (hreports both).2.1 hall
  obtain ⟨hplaced, -⟩ := hdrawn [("Cart", ⟨70, 70⟩)]
  exact ⟨hfault, (hrefused _ hfault).2, validate_standard_rat, s, a, hs, hwaiting, hnothing, hall,
    ha, hplaced⟩

end Session

end RefAtlas.Layout
