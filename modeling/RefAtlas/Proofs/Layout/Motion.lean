import RefAtlas.Layout.Force
import RefAtlas.Proofs.Dictionary

/-! # Simulated nodes keep their places in the list

Forces move nodes but make none and lose none: whatever the coordinates compute, there are as many
places after any number of steps as there were ids, so every id meets its own place.

* `length_startPlaces`: a place for each id at the start.
* `length_bodies_step`, `length_bodies_after`: a step, and any number of them.
* `mem_keys_simulate`: the simulated nodes are those of the list.
* `simulate_eq_ok`: a simulation is so many steps from the places of the seed.
-/

namespace RefAtlas.Layout
open RefAtlas.Graph RefAtlas.Number
set_option autoImplicit false

/-! ## The start -/

theorem Keystream.length_block (key : Keystream.Row × Keystream.Row) (number : UInt64) :
    (Keystream.block key number).length = 16 := rfl

theorem Keystream.length_randomWords (seed : UInt64) (n : Nat) :
    (Keystream.randomWords seed n).length = n := by
  have hblocks : ((List.range (n / 16 + 1)).flatMap fun i =>
      Keystream.block (Keystream.keyOfSeed seed) (UInt64.ofNat i)).length = (n / 16 + 1) * 16 := by
    simp [List.length_flatMap, Keystream.length_block]
  rw [Keystream.randomWords, List.length_take, hblocks]
  omega

variable {α : Type} [Scalar α]

theorem length_pointsOfWords (half : α) (words : List UInt32) :
    (pointsOfWords half words).length = words.length / 2 := by
  fun_induction pointsOfWords half words with
  | case1 w w' rest ih =>
    rw [List.length_cons, ih, List.length_cons, List.length_cons]
    omega
  | case2 words hshort =>
    cases words with
    | nil => rfl
    | cons w rest =>
      cases rest with
      | nil => simp
      | cons w' rest => exact absurd rfl (hshort w w' rest)

theorem length_startPlaces (config : ForceConfig α) (n : Nat) :
    (startPlaces config n).length = n := by
  rw [startPlaces, length_pointsOfWords, Keystream.length_randomWords]
  omega

/-! ## The steps -/

theorem length_forces (config : ForceConfig α) (springs : List Spring) (places : List (Point α)) :
    (forces config springs places).length = places.length := by
  simp [forces]

theorem length_bodies_step (config : ForceConfig α) (springs : List Spring) (m : Motion α) :
    (m.step config springs).bodies.length = m.bodies.length := by
  simp [Motion.step, length_forces]

theorem length_bodies_after (config : ForceConfig α) (springs : List Spring) (n : Nat)
    (m : Motion α) : (m.after config springs n).bodies.length = m.bodies.length := by
  induction n with
  | zero => rfl
  | succ n ih =>
    have hstep : m.after config springs (n + 1) =
        (m.after config springs n).step config springs := rfl
    rw [hstep, length_bodies_step, ih]

theorem length_centred (places : List (Point α)) : (centred places).length = places.length := by
  simp [centred]

/-! ## The end -/

theorem mem_keys_simulateFrom {config : ForceConfig α} {ids : List String} {edges : List Edge}
    {places : List (Point α)} (hplaces : places.length = ids.length) {id : String} :
    id ∈ (simulateFrom config ids edges places).centres.keys ↔ id ∈ ids := by
  have hlength : ids.length ≤ (centred (((Motion.start places).after config
      (springsOf ids edges) config.steps).bodies.map Body.position)).length := by
    rw [length_centred, List.length_map, length_bodies_after, Motion.start, List.length_map, hplaces]
  rw [simulateFrom, Dictionary.mem_keys_ofList, List.map_fst_zip hlength]

theorem mem_keys_simulate {nodes : List String} {edges : List Edge} {config : ForceConfig α}
    {layout : ForceLayout α} (h : simulate nodes edges config = .ok layout) {id : String} :
    id ∈ layout.centres.keys ↔ id ∈ nodes := by
  unfold simulate at h
  cases hvalid : config.validate with
  | error fault =>
    rw [hvalid] at h
    cases h
  | ok _ =>
    rw [hvalid] at h
    obtain rfl := Except.ok.inj h
    rw [mem_keys_simulateFrom (length_startPlaces config _), List.mem_eraseDups]

/-- The layout of a simulation that ends with the given motion. -/
def ForceLayout.ofMotion (ids : List String) (m : Motion α) : ForceLayout α where
  centres := Dictionary.ofList (ids.zip (centred (m.bodies.map Body.position)))
  speedTrace := m.speeds.reverse

theorem simulate_eq_ok (nodes : List String) (edges : List Edge) {config : ForceConfig α}
    (h : config.validate = .ok ()) :
    simulate nodes edges config = .ok (.ofMotion nodes.eraseDups
      ((Motion.start (startPlaces config nodes.eraseDups.length)).after config
        (springsOf nodes.eraseDups edges) config.steps)) := by
  unfold simulate
  rw [h]
  rfl

theorem simulate_eq_error_iff {nodes : List String} {edges : List Edge} {config : ForceConfig α}
    {fault : ConfigFault} :
    simulate nodes edges config = .error fault ↔ config.validate = .error fault := by
  unfold simulate
  cases hvalid : config.validate with
  | error fault' => simp [bind, Except.bind]
  | ok _ => simp [bind, Except.bind, pure, Except.pure]

end RefAtlas.Layout
