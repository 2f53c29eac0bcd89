import Mathlib.Algebra.Order.BigOperators.Group.List
import RefAtlas.Proofs.Layout.Config
import RefAtlas.Proofs.Layout.Motion
import RefAtlas.Proofs.Layout.Vector

/-! # A limit on the speed

Nodes that come close to each other are pushed apart without bound, and any number of edges can pull
at one node. With a limit on the speed every step is short all the same. The forces do not matter
for this, only that each velocity is brought down to the limit before the node moves.

* `speeds_after`: the recorded speeds are the sums of the speeds after each step.
* `hypot_bounded_le`: no velocity is greater than the limit.
* `Limited`, `Limited.step`, `Limited.after`: speeds and distances from the start, along a run.
* `speeds_limited`: what follows for a simulation from any places.
-/

namespace RefAtlas.Layout
open RefAtlas.Graph RefAtlas.Number
set_option autoImplicit false

/-! ## The recorded speeds -/

section Record
variable {α : Type} [Scalar α]

def Motion.totalSpeed (m : Motion α) : α := Scalar.sum (m.bodies.map fun b => b.velocity.hypot)

theorem speeds_after (config : ForceConfig α) (springs : List Spring) (m : Motion α) (n : ℕ) :
    (m.after config springs n).speeds.reverse =
      m.speeds.reverse ++
        (List.range n).map fun k => (m.after config springs (k + 1)).totalSpeed := by
  induction n with
  | zero => simp [Motion.after, Nat.repeat]
  | succ n ih =>
    have hstep : (m.after config springs (n + 1)).speeds =
        (m.after config springs (n + 1)).totalSpeed :: (m.after config springs n).speeds := rfl
    simp [hstep, ih, List.range_succ]

end Record

/-! ## One step -/

section Step
variable {config : ForceConfig ℝ} {limit : ℝ}

theorem hypot_bounded_le (h : 0 < limit) (velocity : Point ℝ) :
    (bounded (some limit) velocity).hypot ≤ limit := by
  unfold bounded
  by_cases hfast : limit < velocity.hypot
  · have hspeed : 0 < velocity.hypot := h.trans hfast
    have hfactor : 0 ≤ limit / velocity.hypot := (div_pos h hspeed).le
    simp only [Scalar.lt_real, hfast, decide_true, if_true]
    rw [Point.hypot_scale _ hfactor, mul_div_cancel₀ _ hspeed.ne']
  · simp [hfast, not_lt.1 hfast]

theorem hypot_move_le (h : 0 < limit) (hlimit : config.maxSpeed = some limit) (body : Body ℝ)
    (force : Point ℝ) : (body.move config force).velocity.hypot ≤ limit := by
  simp only [Body.move, hlimit]
  exact hypot_bounded_le h _

theorem hypot_move_sub_le (h : 0 < limit) (hlimit : config.maxSpeed = some limit) (body : Body ℝ)
    (force start : Point ℝ) : ((body.move config force).position.sub start).hypot ≤
      (body.position.sub start).hypot + limit := by
  have hsplit : (body.move config force).position.sub start =
      body.position - start + (body.move config force).velocity :=
    add_sub_right_comm body.position (body.move config force).velocity start
  rw [hsplit]
  calc (body.position - start + (body.move config force).velocity).hypot
      ≤ (body.position - start).hypot + (body.move config force).velocity.hypot :=
        Point.hypot_add_le _ _
    _ ≤ (body.position.sub start).hypot + limit :=
        add_le_add_right (hypot_move_le h hlimit body force) _

end Step

/-! ## Along a run -/

/-- After `n` steps from the given places no node is faster than the limit, and none is further from
its start than `n` times the limit. -/
structure Limited (limit : ℝ) (places : List (Point ℝ)) (n : ℕ) (m : Motion ℝ) : Prop where
  slow : ∀ body ∈ m.bodies, body.velocity.hypot ≤ limit
  near : List.Forall₂ (fun start (body : Body ℝ) =>
    (body.position.sub start).hypot ≤ n * limit) places m.bodies

section Limited
variable {config : ForceConfig ℝ} {springs : List Spring} {limit : ℝ} {places : List (Point ℝ)}
  {n : ℕ} {m : Motion ℝ}

theorem limited_start (h : 0 < limit) (places : List (Point ℝ)) :
    Limited limit places 0 (Motion.start places) where
  slow := by
    intro body hbody
    obtain ⟨p, -, rfl⟩ := List.mem_map.1 hbody
    exact Point.hypot_zero.trans_le h.le
  near := by
    refine List.forall₂_map_right_iff.2 (List.forall₂_same.2 fun p _ => ?_)
    have hsame : p.sub p = 0 := sub_self p
    simp [hsame, Point.hypot_zero]

theorem near_move (h : 0 < limit) (hlimit : config.maxSpeed = some limit) {bodies : List (Body ℝ)}
    (hnear : List.Forall₂ (fun start (body : Body ℝ) =>
      (body.position.sub start).hypot ≤ n * limit) places bodies)
    {forces : List (Point ℝ)} (hlength : forces.length = bodies.length) :
    List.Forall₂ (fun start (body : Body ℝ) =>
      (body.position.sub start).hypot ≤ (n + 1 : ℕ) * limit) places
      (bodies.zipWith (Body.move config) forces) := by
  induction hnear generalizing forces with
  | nil => simp
  | @cons start body places bodies hbody hrest ih =>
    cases forces with
    | nil => simp at hlength
    | cons force forces =>
      refine List.Forall₂.cons ?_ (ih (Nat.succ.inj hlength))
      have hmove := hypot_move_sub_le h hlimit body force start
      push_cast
      linarith

theorem Limited.step (hm : Limited limit places n m) (h : 0 < limit)
    (hlimit : config.maxSpeed = some limit) :
    Limited limit places (n + 1) (m.step config springs) where
  slow := by
    intro body hbody
    obtain ⟨i, hi, rfl⟩ := List.mem_iff_getElem.1 hbody
    simp only [Motion.step, List.getElem_zipWith]
    exact hypot_move_le h hlimit _ _
  near := near_move h hlimit hm.near (by simp [length_forces])

theorem Limited.after (h : 0 < limit) (hlimit : config.maxSpeed = some limit)
    (places : List (Point ℝ)) (n : ℕ) :
    Limited limit places n ((Motion.start places).after config springs n) := by
  induction n with
  | zero => exact limited_start h places
  | succ n ih => exact ih.step h hlimit

theorem Limited.totalSpeed_mem (hm : Limited limit places n m) :
    m.totalSpeed ∈ Set.Icc 0 (places.length * limit) := by
  rw [Motion.totalSpeed, Scalar.sum_real]
  constructor
  · refine List.sum_nonneg fun speed hspeed => ?_
    obtain ⟨body, -, rfl⟩ := List.mem_map.1 hspeed
    exact Point.hypot_nonneg _
  · have hslow : ∀ speed ∈ m.bodies.map fun b => b.velocity.hypot, speed ≤ limit := by
      intro speed hspeed
      obtain ⟨body, hbody, rfl⟩ := List.mem_map.1 hspeed
      exact hm.slow body hbody
    have hsum := List.sum_le_card_nsmul _ limit hslow
    rwa [List.length_map, ← hm.near.length_eq, nsmul_eq_mul] at hsum

end Limited

/-! ## Settings with a limit -/

theorem pos_of_checkPositive {setting : String} {x : ℝ} (h : checkPositive setting x = .ok ()) :
    0 < x := by
  by_contra hle
  simp [checkPositive, not_lt.1 hle] at h

theorem ForceConfig.maxSpeed_pos {config : ForceConfig ℝ} {limit : ℝ}
    (hvalid : config.validate = .ok ()) (hlimit : config.maxSpeed = some limit) : 0 < limit := by
  obtain ⟨-, -, -, -, hchecked⟩ := ForceConfig.validate_eq_ok_iff.1 hvalid
  exact pos_of_checkPositive (hchecked limit hlimit)

/-! ## Simulations -/

/-- A simulation takes so many steps from the places of its seed and then centres. With a limit on
the speed, wherever the nodes start and whatever joins them, every node has at most this speed after
every step, a recorded sum of speeds is at most the limit for each node, and `n` steps lead no node
further away than `n` times the limit. -/
theorem speeds_limited (nodes : List String) (edges : List Edge) (config : ForceConfig ℝ)
    (limit : ℝ) (hvalid : config.validate = .ok ()) (hlimit : config.maxSpeed = some limit) :
    let ids := nodes.eraseDups
    let after (places : List (Point ℝ)) (n : ℕ) :=
      (Motion.start places).after config (springsOf ids edges) n
    simulate nodes edges config =
      .ok (simulateFrom config ids edges (startPlaces config ids.length)) ∧
    (startPlaces config ids.length).length = ids.length ∧
    ∀ places, places.length = ids.length →
      let layout := simulateFrom config ids edges places
      layout = .ofMotion ids (after places config.steps) ∧
      layout.speedTrace.length = config.steps ∧
      (∀ total ∈ layout.speedTrace, 0 ≤ total ∧ total ≤ ids.length * limit) ∧
      ∀ n, (∀ body ∈ (after places n).bodies, body.velocity.hypot ≤ limit) ∧
        List.Forall₂ (fun start body => (body.position.sub start).hypot ≤ n * limit) places
          (after places n).bodies := by
  intro ids after
  have hpos : 0 < limit := ForceConfig.maxSpeed_pos hvalid hlimit
  refine ⟨simulate_eq_ok nodes edges hvalid, length_startPlaces config _, fun places hplaces => ?_⟩
  intro layout
  have hlimited : ∀ n, Limited limit places n (after places n) := fun n =>
    Limited.after hpos hlimit places n
  have htrace : layout.speedTrace =
      (List.range config.steps).map fun k => (after places (k + 1)).totalSpeed :=
    speeds_after config (springsOf ids edges) (Motion.start places) config.steps
  refine ⟨rfl, by simp [htrace], fun total htotal => ?_, fun n => ?_⟩
  · rw [htrace] at htotal
    obtain ⟨k, -, rfl⟩ := List.mem_map.1 htotal
    rw [← hplaces]
    exact (hlimited (k + 1)).totalSpeed_mem
  · exact ⟨(hlimited n).slow, (hlimited n).near⟩

/-- Strong pushes, but a low limit. -/
noncomputable def lowLimit : ForceConfig ℝ where
  steps := 5
  repulsion := Scalar.ofNat 1000
  attraction := Scalar.ofNat 3
  damping := (Scalar.ofNat 2)⁻¹
  maxSpeed := some (Scalar.ofNat 2)
  seed := none
  spread := Scalar.ofNat 4

theorem maxSpeed_lowLimit : lowLimit.maxSpeed = some 2 := by
  simp [lowLimit]

theorem validate_lowLimit : lowLimit.validate = .ok () := by
  rw [ForceConfig.validate_eq_ok_iff]
  norm_num [lowLimit, checkDamping, checkNonNegative, checkPositive]

/-- Two nodes start next to each other and are joined twice. -/
theorem speeds_limited_lowLimit :
    let nodes := ["Cart", "Item", "Cart", "Shop"]
    let edges : List Edge := [⟨"Cart", "Item"⟩, ⟨"Item", "Cart"⟩, ⟨"Shop", "Ghost"⟩]
    let places : List (Point ℝ) := [⟨0, 0⟩, ⟨1 / 1000, 0⟩, ⟨3, 4⟩]
    let layout := simulateFrom lowLimit nodes.eraseDups edges places
    lowLimit.validate = .ok () ∧ lowLimit.maxSpeed = some 2 ∧
    places.length = nodes.eraseDups.length ∧ layout.speedTrace.length = 5 ∧
    ∀ total ∈ layout.speedTrace, 0 ≤ total ∧ total ≤ 6 := by
  intro nodes edges places layout
  have hplaces : places.length = nodes.eraseDups.length := by decide
  obtain ⟨-, -, hlayout⟩ := speeds_limited nodes edges lowLimit 2 validate_lowLimit maxSpeed_lowLimit
  obtain ⟨-, hlength, htrace, -⟩ := hlayout places hplaces
  refine ⟨validate_lowLimit, maxSpeed_lowLimit, hplaces, hlength, fun total htotal => ?_⟩
  have hsix : ((nodes.eraseDups.length : ℕ) : ℝ) * 2 = 6 := by
    have hthree : nodes.eraseDups.length = 3 := by decide
    rw [hthree]
    norm_num
  exact hsix ▸ htrace total htotal

end RefAtlas.Layout
