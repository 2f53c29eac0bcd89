import Mathlib.Data.Sym.Sym2
import RefAtlas.Number.Single
import RefAtlas.Proofs.Layout.Members
import RefAtlas.Proofs.Layout.Motion
import RefAtlas.Proofs.Layout.Vector

/-! # What a simulation does not depend on

Repeated ids and edges that join no two nodes are left out before anything is computed, so they
change no bit of the result. The order and the direction of the edges only change in which order the
forces on a node are added up and with which sign they are written, so over the reals they change
nothing either.

* `Padded`: a list with noise inserted at any places; `Padded.eq_of_insert`: what no noise changes.
* `eraseDups_insert`, `springsOf_insert`: repeated ids and idle edges are such noise.
* `pullOn_swap`: a spring pulls as much in the other direction; `withPulls_pulls`: so the pulls on a
  node are a sum over the ends of the springs.
* `forces_eq_of_ends`, `after_eq_of_ends`: a step and a run by the ends of the springs.
* `simulate_ignores`: both for whole simulations.
-/

namespace RefAtlas
set_option autoImplicit false

/-! ## Noise in a list -/

/-- The second list is the first one with more members inserted, each of them noise behind what
stands in front of it. -/
inductive Padded {β : Type} (noise : List β → β → Prop) (l : List β) : List β → Prop
  | refl : Padded noise l l
  | insert (front : List β) (b : β) (back : List β) (rest : Padded noise l (front ++ back))
      (h : noise front b) : Padded noise l (front ++ b :: back)

/-- What does not change with one more noisy member does not change with any number of them. -/
theorem Padded.eq_of_insert {β γ : Type} {noise : List β → β → Prop} {f : List β → γ}
    (hf : ∀ front b back, noise front b → f (front ++ b :: back) = f (front ++ back))
    {l l' : List β} (h : Padded noise l l') : f l' = f l := by
  induction h with
  | refl => rfl
  | insert front b back rest hnoise ih => exact (hf front b back hnoise).trans ih

theorem eraseDups_insert {front back : List String} {id : String} (h : id ∈ front) :
    (front ++ id :: back).eraseDups = (front ++ back).eraseDups := by
  simp [List.eraseDups_append, List.removeAll, h]

namespace Layout
open RefAtlas.Graph RefAtlas.Number

/-! ## Springs without a direction -/

/-- The edge does not join two different nodes of the list. -/
def IsIdle (nodes : List String) (e : Edge) : Prop :=
  e.source ∉ nodes ∨ e.target ∉ nodes ∨ e.source = e.target

/-- The spring of an edge, if it joins two different nodes of the list. -/
def springBetween? (ids : List String) (source target : String) : Option Spring :=
  match ids.idxOf? source, ids.idxOf? target with
  | some s, some t => if s == t then none else some ⟨s, t⟩
  | _, _ => none

theorem springsOf_eq_filterMap (ids : List String) (edges : List Edge) :
    springsOf ids edges = edges.filterMap fun e => springBetween? ids e.source e.target := rfl

theorem IsIdle.springBetween?_eq_none {ids : List String} {e : Edge} (h : IsIdle ids e) :
    springBetween? ids e.source e.target = none := by
  unfold springBetween?
  rcases h with hsource | htarget | hsame
  · simp [List.idxOf?_eq_none_iff.2 hsource]
  · simp [List.idxOf?_eq_none_iff.2 htarget]
  · rw [hsame]
    cases ids.idxOf? e.target <;> simp

theorem springsOf_insert {ids : List String} {front back : List Edge} {e : Edge}
    (h : IsIdle ids e) : springsOf ids (front ++ e :: back) = springsOf ids (front ++ back) := by
  simp [springsOf_eq_filterMap, List.filterMap_append, h.springBetween?_eq_none]

def Spring.ends (s : Spring) : Sym2 ℕ := s(s.source, s.target)

def edgeEnds (e : Edge) : Sym2 String := s(e.source, e.target)

theorem ends_springBetween?_swap (ids : List String) (a b : String) :
    (springBetween? ids a b).map Spring.ends = (springBetween? ids b a).map Spring.ends := by
  unfold springBetween?
  cases ids.idxOf? a with
  | none => cases ids.idxOf? b <;> rfl
  | some i =>
    cases ids.idxOf? b with
    | none => rfl
    | some j =>
      by_cases hij : i = j
      · simp [hij]
      · simp [hij, Ne.symm hij, Spring.ends, Sym2.eq_swap (a := j)]

def endsBetween? (ids : List String) : Sym2 String → Option (Sym2 ℕ) :=
  Sym2.lift ⟨fun a b => (springBetween? ids a b).map Spring.ends, ends_springBetween?_swap ids⟩

theorem map_ends_springsOf (ids : List String) (edges : List Edge) :
    (springsOf ids edges).map Spring.ends =
      (edges.map edgeEnds).filterMap (endsBetween? ids) := by
  rw [springsOf_eq_filterMap, List.map_filterMap, List.filterMap_map]
  rfl

/-! ## Pulls as a sum -/

section Pulls
variable {attraction : ℝ} {places : Array (Point ℝ)}

/-- The pull of a spring between the nodes with the given numbers. -/
noncomputable def pullBetween? (attraction : ℝ) (places : Array (Point ℝ)) (i j : ℕ) :
    Option (Point ℝ) :=
  match places[i]?, places[j]? with
  | some p, some q => pull? attraction p q
  | _, _ => none

theorem pulls_eq_filterMap (attraction : ℝ) (springs : List Spring) (places : Array (Point ℝ)) :
    pulls attraction springs places = springs.filterMap fun s =>
      (pullBetween? attraction places s.source s.target).map fun pull => (s, pull) := by
  refine List.filterMap_congr fun s _ => ?_
  unfold pullBetween?
  cases places[s.source]? <;> cases places[s.target]? <;> rfl

theorem pullBetween?_swap (i j : ℕ) :
    pullBetween? attraction places j i = (pullBetween? attraction places i j).map (-·) := by
  unfold pullBetween?
  cases places[i]? with
  | none => cases places[j]? <;> rfl
  | some p =>
    cases places[j]? with
    | none => rfl
    | some q =>
      have hdelta : q.sub p = -p.sub q := (neg_sub p q).symm
      have hscale : (-p.sub q).scale attraction = -(p.sub q).scale attraction :=
        map_neg (Point.scaleHom attraction) (p.sub q)
      simp only [pull?, hdelta, Point.hypot_neg, hscale]
      split <;> rfl

/-- What a spring does to the force on the `k`-th node. -/
noncomputable def pullOn (attraction : ℝ) (places : Array (Point ℝ)) (k i j : ℕ) : Point ℝ :=
  match pullBetween? attraction places i j with
  | some pull => if k = i then -pull else if k = j then pull else 0
  | none => 0

theorem pullOn_swap (k i j : ℕ) :
    pullOn attraction places k i j = pullOn attraction places k j i := by
  by_cases hij : i = j
  · rw [hij]
  · unfold pullOn
    rw [pullBetween?_swap i j]
    cases pullBetween? attraction places i j with
    | none => rfl
    | some pull =>
      by_cases hi : k = i
      · simp [hi, hij]
      · simp [hi]

noncomputable def endsPullOn (attraction : ℝ) (places : Array (Point ℝ)) (k : ℕ) :
    Sym2 ℕ → Point ℝ :=
  Sym2.lift ⟨pullOn attraction places k, pullOn_swap k⟩

theorem withPulls_cons (s : Spring) (pull : Point ℝ) (rest : List (Spring × Point ℝ)) (k : ℕ)
    (force : Point ℝ) : withPulls ((s, pull) :: rest) k force = withPulls rest k
      (force + if k = s.source then -pull else if k = s.target then pull else 0) := by
  have hfirst : (if k == s.source then force.sub pull
      else if k == s.target then force.add pull else force) =
        force + if k = s.source then -pull else if k = s.target then pull else 0 := by
    by_cases hsource : k = s.source
    · simp only [hsource, beq_self_eq_true, if_true]
      exact sub_eq_add_neg force pull
    · by_cases htarget : k = s.target
      · simp only [htarget ▸ hsource, htarget, beq_self_eq_true, beq_iff_eq, if_true, if_false]
        rfl
      · simp [hsource, htarget]
  rw [← hfirst]
  rfl

/-- The pulls on a node are added up, one for the ends of each spring. -/
theorem withPulls_pulls (springs : List Spring) (k : ℕ) (force : Point ℝ) :
    withPulls (pulls attraction springs places) k force =
      force + ((springs.map Spring.ends).map (endsPullOn attraction places k)).sum := by
  rw [pulls_eq_filterMap]
  induction springs generalizing force with
  | nil => simp [withPulls]
  | cons s springs ih =>
    have hends : endsPullOn attraction places k s.ends =
        pullOn attraction places k s.source s.target := rfl
    rw [List.map_cons, List.map_cons, List.sum_cons, hends, ← add_assoc, ← ih, pullOn]
    cases hpull : pullBetween? attraction places s.source s.target with
    | none => simp [hpull]
    | some pull =>
      rw [List.filterMap_cons_some (by rw [hpull]; rfl), withPulls_cons]

end Pulls

/-! ## The motion -/

section Ends
variable {config : ForceConfig ℝ} {springs springs' : List Spring}

theorem forces_eq_of_ends (h : (springs.map Spring.ends).Perm (springs'.map Spring.ends))
    (places : List (Point ℝ)) : forces config springs places = forces config springs' places := by
  unfold forces
  refine List.map_congr_left fun (p, k) _ => ?_
  simp only [withPulls_pulls]
  rw [(h.map (endsPullOn config.attraction places.toArray k)).sum_eq]

/-- Springs with the same ends move the nodes alike, in whatever order and direction they are
given. -/
theorem after_eq_of_ends (h : (springs.map Spring.ends).Perm (springs'.map Spring.ends)) (n : ℕ)
    (m : Motion ℝ) : m.after config springs n = m.after config springs' n := by
  have hstep : Motion.step config springs = Motion.step config springs' := by
    funext m
    rw [Motion.step, Motion.step, forces_eq_of_ends h]
  rw [Motion.after, Motion.after, hstep]

theorem simulateFrom_eq_of_ends {edges edges' : List Edge}
    (h : (edges.map edgeEnds).Perm (edges'.map edgeEnds)) (ids : List String)
    (places : List (Point ℝ)) :
    simulateFrom config ids edges places = simulateFrom config ids edges' places := by
  have hends : ((springsOf ids edges).map Spring.ends).Perm
      ((springsOf ids edges').map Spring.ends) := by
    rw [map_ends_springsOf, map_ends_springsOf]
    exact h.filterMap _
  simp only [simulateFrom, after_eq_of_ends hends]

end Ends

/-! ## Whole simulations -/

/-- With settings that make sense, a simulation with a seed has a place for each distinct id. It is
the same to the last bit, from these places or any others, if repeated ids are inserted behind their
first ones and edges that do not join two different nodes are inserted anywhere. Over the reals it
is the same for all lists of edges with the same ends, in whatever order and direction. -/
theorem simulate_ignores {α : Type} [Scalar α] (nodes nodes' : List String)
    (edges edges' : List Edge)
    (hnodes : Padded (fun front id => id ∈ front) nodes nodes')
    (hedges : Padded (fun _ e => IsIdle nodes e) edges edges') :
    (∀ (config : ForceConfig α) (places : List (Point α)),
      simulateFrom config nodes'.eraseDups edges' places =
        simulateFrom config nodes.eraseDups edges places) ∧
    (∀ (config : ForceConfig α) (seed : ℕ),
      { config with seed := some seed }.validate = .ok () → ∃ layout,
        simulate nodes edges { config with seed := some seed } = .ok layout ∧
        simulate nodes' edges' { config with seed := some seed } = .ok layout ∧
        layout.centres.keys.Perm nodes.eraseDups) ∧
    ∀ (config : ForceConfig ℝ) (arranged : List Edge),
      (arranged.map edgeEnds).Perm (edges.map edgeEnds) →
      (∀ places, simulateFrom config nodes.eraseDups arranged places =
        simulateFrom config nodes.eraseDups edges places) ∧
      simulate nodes arranged config = simulate nodes edges config := by
  have hids : nodes'.eraseDups = nodes.eraseDups :=
    hnodes.eq_of_insert fun _ _ _ hid => eraseDups_insert hid
  have hsprings : springsOf nodes.eraseDups edges' = springsOf nodes.eraseDups edges := by
    refine hedges.eq_of_insert fun _ _ _ hidle => springsOf_insert ?_
    simpa only [IsIdle, List.mem_eraseDups] using hidle
  have hfrom : ∀ (config : ForceConfig α) (places : List (Point α)),
      simulateFrom config nodes'.eraseDups edges' places =
        simulateFrom config nodes.eraseDups edges places := by
    intro config places
    rw [simulateFrom, simulateFrom, hids, hsprings]
  refine ⟨hfrom, fun config seed hvalid => ?_, fun config arranged hends => ?_⟩
  · have hlayout := simulate_eq_ok nodes edges hvalid
    refine ⟨_, hlayout, ?_, ?_⟩
    · rw [simulate_eq_ok nodes' edges' hvalid, hids, hsprings]
    · refine (List.perm_ext_iff_of_nodup (Dictionary.nodup_keys _) (nodup_eraseDups _)).2 ?_
      intro id
      rw [mem_keys_simulate hlayout, List.mem_eraseDups]
  · have hsame : ∀ places, simulateFrom config nodes.eraseDups arranged places =
        simulateFrom config nodes.eraseDups edges places := simulateFrom_eq_of_ends hends _
    exact ⟨hsame, by simp only [simulate, hsame]⟩

/-- Coordinates of four bytes, and noise of every kind; over the reals an edge turned round. -/
theorem simulate_ignores_ghosts :
    let config := ForceConfig.standard (α := Float32)
    let nodes := ["Cart", "Item"]
    let edges : List Edge := [⟨"Cart", "Item"⟩]
    let noisy : List Edge := [⟨"Cart", "Ghost"⟩, ⟨"Cart", "Item"⟩, ⟨"Item", "Item"⟩]
    Padded (fun front id => id ∈ front) nodes ["Cart", "Cart", "Item"] ∧
    Padded (fun _ e => IsIdle nodes e) edges noisy ∧
    { config with seed := some 42 }.validate = .ok () ∧
    (∃ layout, simulate nodes edges { config with seed := some 42 } = .ok layout ∧
      simulate ["Cart", "Cart", "Item"] noisy { config with seed := some 42 } = .ok layout) ∧
    ([⟨"Item", "Cart"⟩].map edgeEnds).Perm (edges.map edgeEnds) ∧
    simulate nodes [⟨"Item", "Cart"⟩] (ForceConfig.standard (α := ℝ)) =
      simulate nodes edges ForceConfig.standard := by
  intro config nodes edges noisy
  have hnodes : Padded (fun front id => id ∈ front) nodes ["Cart", "Cart", "Item"] :=
    .insert ["Cart"] "Cart" ["Item"] .refl (List.mem_singleton_self _)
  have hself : Padded (fun _ e => IsIdle nodes e) edges (edges ++ [⟨"Item", "Item"⟩]) :=
    .insert edges ⟨"Item", "Item"⟩ [] .refl (.inr (.inr rfl))
  have hedges : Padded (fun _ e => IsIdle nodes e) edges noisy :=
    .insert [] (⟨"Cart", "Ghost"⟩ : Edge) _ hself (.inr (.inl (by decide)))
  have hvalid : { config with seed := some 42 }.validate = .ok () := by decide
  obtain ⟨-, hseeded, hends⟩ :=
    simulate_ignores (α := Float32) nodes _ edges noisy hnodes hedges
  obtain ⟨layout, hlayout, hnoisy, -⟩ := hseeded config 42 hvalid
  have hturned : ([⟨"Item", "Cart"⟩].map edgeEnds).Perm (edges.map edgeEnds) :=
    List.Perm.of_eq (congrArg (fun e => [e]) Sym2.eq_swap)
  exact ⟨hnodes, hedges, hvalid, ⟨layout, hlayout, hnoisy⟩, hturned,
    (hends .standard _ hturned).2⟩

end Layout

end RefAtlas
