import RefAtlas.Proofs.Layout.Config
import RefAtlas.Proofs.Layout.ForceLoops
import RefAtlas.Proofs.Layout.Motion
import RefAtlas.Proofs.Layout.Vector

/-! # Forces balance

Over the reals every push and every pull acts on two nodes in opposite directions. So the forces of
a step cancel out, and without a bound on the speed nothing else changes the sum of the velocities:
it stays zero, and the nodes keep their centre.

* `sum_exchange`, `sum_scatter`: what acts between nodes keeps the sum of the forces; `sum_forces`:
  so that of a step is zero.
* `Balanced`, `Balanced.step`, `Balanced.after`: the sums of velocities and places, along a run.
* `forces_balance`: the sums after any number of steps.
-/

namespace RefAtlas.Layout
open RefAtlas.Graph RefAtlas.Number
set_option autoImplicit false

/-! ## The forces of a step -/

/-- What acts between two nodes changes no sum of forces. -/
theorem sum_exchange {act : Spring × Point ℝ} {forces : List (Point ℝ)}
    (hsource : act.1.source < forces.length) (htarget : act.1.target < forces.length) :
    (exchange forces act).sum = forces.sum := by
  have hsub : (fun force : Point ℝ => force.sub act.2) = (· + -act.2) :=
    funext fun force => sub_eq_add_neg force act.2
  have hadded : (forces.modify act.1.target (·.add act.2)).sum = forces.sum + act.2 :=
    sum_modify htarget act.2
  rw [exchange, hsub, sum_modify (by simpa using hsource), hadded, add_neg_cancel_right]

theorem sum_scatter {acts : List (Spring × Point ℝ)} {forces : List (Point ℝ)}
    (h : ∀ act ∈ acts, act.1.source < forces.length ∧ act.1.target < forces.length) :
    (scatter acts forces).sum = forces.sum := by
  induction acts generalizing forces with
  | nil => rfl
  | cons act acts ih =>
    obtain ⟨hsource, htarget⟩ := h act List.mem_cons_self
    have hlength : (exchange forces act).length = forces.length := by simp [exchange]
    have hrest := ih fun later hlater => hlength ▸ h later (List.mem_cons_of_mem act hlater)
    exact hrest.trans (sum_exchange hsource htarget)

theorem sum_forces (config : ForceConfig ℝ) {springs : List Spring} (h : Loopless springs)
    (places : List (Point ℝ)) : (forces config springs places).sum = 0 := by
  have hacts : ∀ act ∈ acts config springs places,
      act.1.source < (List.replicate places.length (0 : Point ℝ)).length ∧
        act.1.target < (List.replicate places.length (0 : Point ℝ)).length := by
    intro act hact
    rw [List.length_replicate]
    exact (mem_acts h hact).2
  calc (forces config springs places).sum
      = (scatter (acts config springs places) (List.replicate places.length 0)).sum :=
        congrArg List.sum (forces_eq_scatter config h places)
    _ = (List.replicate places.length (0 : Point ℝ)).sum := sum_scatter hacts
    _ = 0 := by rw [List.sum_replicate, smul_zero]

/-! ## Sums along a run -/

/-- The velocities of the nodes cancel out, and their places have the given sum. -/
structure Balanced (total : Point ℝ) (m : Motion ℝ) : Prop where
  velocities : (m.bodies.map Body.velocity).sum = 0
  places : (m.bodies.map Body.position).sum = total

section Balanced
variable {config : ForceConfig ℝ}

/-- Without a bound on the speed, every node takes its share of the sum of velocities and forces. -/
theorem sum_velocity_move (hspeed : config.maxSpeed = none) {bodies : List (Body ℝ)}
    {forces : List (Point ℝ)} (hlength : forces.length = bodies.length) :
    ((bodies.zipWith (Body.move config) forces).map Body.velocity).sum =
      Point.scaleHom config.damping ((bodies.map Body.velocity).sum + forces.sum) := by
  induction bodies generalizing forces with
  | nil =>
    obtain rfl := List.length_eq_zero_iff.1 hlength
    simp
  | cons body bodies ih =>
    cases forces with
    | nil => cases hlength
    | cons force forces =>
      have hrest := ih (Nat.succ.inj hlength)
      have hmove : (body.move config force).velocity =
          Point.scaleHom config.damping (body.velocity + force) := by
        rw [Body.move, hspeed]
        rfl
      rw [List.zipWith_cons_cons, List.map_cons, List.sum_cons, hrest, hmove, ← map_add,
        List.map_cons, List.sum_cons, List.sum_cons, add_add_add_comm]

theorem sum_position_move {bodies : List (Body ℝ)} {forces : List (Point ℝ)}
    (hlength : forces.length = bodies.length) :
    ((bodies.zipWith (Body.move config) forces).map Body.position).sum =
      (bodies.map Body.position).sum +
        ((bodies.zipWith (Body.move config) forces).map Body.velocity).sum := by
  induction bodies generalizing forces with
  | nil => simp
  | cons body bodies ih =>
    cases forces with
    | nil => cases hlength
    | cons force forces =>
      have hrest := ih (Nat.succ.inj hlength)
      have hmove : (body.move config force).position =
          body.position + (body.move config force).velocity := rfl
      rw [List.zipWith_cons_cons, List.map_cons, List.sum_cons, hrest, hmove, List.map_cons,
        List.sum_cons, List.map_cons, List.sum_cons, add_add_add_comm]

theorem balanced_start (places : List (Point ℝ)) : Balanced places.sum (Motion.start places) where
  velocities := by
    rw [Motion.start, List.map_map]
    exact List.sum_eq_zero fun v hv => by
      obtain ⟨p, -, rfl⟩ := List.mem_map.1 hv
      rfl
  places := by
    rw [Motion.start, List.map_map]
    exact congrArg List.sum (List.map_id places)

variable {springs : List Spring} {total : Point ℝ} {m : Motion ℝ}

theorem Balanced.step (h : Balanced total m) (hspeed : config.maxSpeed = none)
    (hsprings : Loopless springs) : Balanced total (m.step config springs) := by
  have hlength : (forces config springs (m.bodies.map Body.position)).length = m.bodies.length := by
    rw [length_forces, List.length_map]
  have hvelocities : ((m.step config springs).bodies.map Body.velocity).sum = 0 := by
    rw [Motion.step, sum_velocity_move hspeed hlength, h.velocities, sum_forces config hsprings,
      add_zero, map_zero]
  refine ⟨hvelocities, ?_⟩
  rw [Motion.step, sum_position_move hlength, h.places]
  exact (congrArg (total + ·) hvelocities).trans (add_zero total)

theorem Balanced.after (h : Balanced total m) (hspeed : config.maxSpeed = none)
    (hsprings : Loopless springs) (n : Nat) : Balanced total (m.after config springs n) := by
  induction n with
  | zero => exact h
  | succ n ih => exact ih.step hspeed hsprings

end Balanced

/-- A simulation takes so many steps from the places of its seed. Without a bound on the speed, the
forces of every step and the velocities after it cancel out, and the places keep their sum, whatever
nodes and edges are given and wherever the nodes start. -/
theorem forces_balance (nodes : List String) (edges : List Edge) (config : ForceConfig ℝ)
    (hspeed : config.maxSpeed = none) :
    let ids := nodes.eraseDups
    let springs := springsOf ids edges
    let after (places : List (Point ℝ)) (n : Nat) := (Motion.start places).after config springs n
    (config.validate = .ok () → simulate nodes edges config =
      .ok (.ofMotion ids (after (startPlaces config ids.length) config.steps))) ∧
    ∀ places n, (forces config springs ((after places n).bodies.map Body.position)).sum = 0 ∧
      ((after places n).bodies.map Body.velocity).sum = 0 ∧
      ((after places n).bodies.map Body.position).sum = places.sum := by
  intro ids springs after
  refine ⟨fun hvalid => simulate_eq_ok nodes edges hvalid, fun places n => ?_⟩
  have hsprings : Loopless springs := loopless_springsOf ids edges
  have h : Balanced places.sum (after places n) := (balanced_start places).after hspeed hsprings n
  exact ⟨sum_forces config hsprings _, h.velocities, h.places⟩

/-- An edge that is named twice, and edges that lead nowhere. -/
def crossedEdges : List Edge :=
  [⟨"Cart", "Item"⟩, ⟨"Item", "Shop"⟩, ⟨"Cart", "Item"⟩, ⟨"Shop", "Shop"⟩, ⟨"Cart", "Ghost"⟩]

noncomputable def unboundedConfig : ForceConfig ℝ := { ForceConfig.standard with maxSpeed := none }

theorem validate_unboundedConfig : unboundedConfig.validate = .ok () := by
  have hdamping : checkDamping unboundedConfig.damping = .ok () := by
    have hbounds : 0 < (Scalar.ofDecimal ⟨false, 85, -2⟩ : ℚ) ∧
        (Scalar.ofDecimal ⟨false, 85, -2⟩ : ℚ) < 1 := by decide +kernel
    have hvalue : unboundedConfig.damping = ((Scalar.ofDecimal ⟨false, 85, -2⟩ : ℚ) : ℝ) :=
      Scalar.ofDecimal_real _
    rw [hvalue, checkDamping, Scalar.lt_real, Scalar.lt_real, Scalar.zero_real, Scalar.ofNat_real]
    norm_cast
    simp [hbounds]
  have hrepulsion : checkNonNegative "force.repulsion" unboundedConfig.repulsion = .ok () := by
    simp [checkNonNegative, unboundedConfig, ForceConfig.standard]
  have hattraction : checkNonNegative "force.attraction" unboundedConfig.attraction = .ok () := by
    have hbound : 0 ≤ (Scalar.ofDecimal ⟨false, 5, -2⟩ : ℚ) := by decide +kernel
    simp [checkNonNegative, unboundedConfig, ForceConfig.standard, Scalar.ofDecimal_real, hbound]
  have hspread : checkPositive "force.spread" unboundedConfig.spread = .ok () := by
    simp [checkPositive, unboundedConfig, ForceConfig.standard]
  have hspeed : ∀ limit ∈ unboundedConfig.maxSpeed,
      checkPositive "force.max_speed" limit = .ok () := fun limit hlimit => by cases hlimit
  exact ForceConfig.validate_eq_ok_iff.2 ⟨hdamping, hrepulsion, hattraction, hspread, hspeed⟩

/-- Two of three nodes start at one place. -/
theorem forces_balance_crossedEdges :
    let nodes := ["Cart", "Item", "Cart", "Shop"]
    let springs := springsOf nodes.eraseDups crossedEdges
    unboundedConfig.maxSpeed = none ∧ unboundedConfig.validate = .ok () ∧
    (∃ layout, simulate nodes crossedEdges unboundedConfig = .ok layout) ∧
    (((Motion.start [⟨0, 0⟩, ⟨3, 4⟩, ⟨0, 0⟩]).after unboundedConfig springs 5).bodies.map
      Body.position).sum = ⟨3, 4⟩ := by
  intro nodes springs
  obtain ⟨hsimulate, hsums⟩ := forces_balance nodes crossedEdges unboundedConfig rfl
  obtain ⟨-, -, hplaces⟩ := hsums [⟨0, 0⟩, ⟨3, 4⟩, ⟨0, 0⟩] 5
  refine ⟨rfl, validate_unboundedConfig, ⟨_, hsimulate validate_unboundedConfig⟩,
    hplaces.trans ?_⟩
  ext <;> simp

end RefAtlas.Layout
