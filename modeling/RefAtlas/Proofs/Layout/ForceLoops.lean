import Mathlib.Data.List.Basic
import RefAtlas.Layout.Force

/-! # Forces in one pass

The force on a node is made of all that acts on this node. The forces of all nodes also come out of
one pass over the pairs of nodes and one over the edges, in which everything that acts between two
nodes is counted for both of them at once. No law of the arithmetic is used, so the two agree to the
last bit.

* `exchange`, `scatter`: counting a force, or many of them, for both of their nodes;
  `getElem?_scatter`: what a node gets from it.
* `pushes`: the pushes of all pairs; `withPulls_pushes`: what a node gets from them.
* `forces_eq_scatter`: the forces of a step.
-/

namespace RefAtlas.Layout
open RefAtlas.Graph RefAtlas.Number
set_option autoImplicit false

/-! ## Numbered nodes -/

def Loopless (springs : List Spring) : Prop := ∀ s ∈ springs, s.source ≠ s.target

theorem loopless_springsOf (ids : List String) (edges : List Edge) :
    Loopless (springsOf ids edges) := by
  intro s hs
  obtain ⟨e, -, he⟩ := List.mem_filterMap.1 hs
  split at he
  · split at he
    · cases he
    · next hne =>
      obtain rfl := Option.some.inj he
      simpa using hne
  · cases he

def Ascending {α : Type} (places : List (Point α × Nat)) : Prop :=
  places.Pairwise fun a b => a.2 < b.2

theorem ascending_zipIdx {α : Type} (places : List (Point α)) (n : Nat) :
    Ascending (places.zipIdx n) := by
  induction places generalizing n with
  | nil => exact List.Pairwise.nil
  | cons p places ih =>
    exact List.pairwise_cons.2 ⟨fun a ha => List.le_snd_of_mem_zipIdx ha, ih (n + 1)⟩

theorem foldl_eq_self {β γ : Type} {step : γ → β → γ} {l : List β}
    (h : ∀ b ∈ l, ∀ s, step s b = s) (s : γ) : l.foldl step s = s := by
  induction l with
  | nil => rfl
  | cons b l ih =>
    rw [List.foldl_cons, h b List.mem_cons_self]
    exact ih fun c hc => h c (List.mem_cons_of_mem b hc)

variable {α : Type} [Scalar α]

/-! ## Counting forces for both nodes -/

/-- A force between two nodes, added for the one and subtracted for the other. -/
def exchange (forces : List (Point α)) (act : Spring × Point α) : List (Point α) :=
  (forces.modify act.1.target (·.add act.2)).modify act.1.source (·.sub act.2)

def scatter (acts : List (Spring × Point α)) (forces : List (Point α)) : List (Point α) :=
  acts.foldl exchange forces

theorem getElem?_exchange {act : Spring × Point α} (h : act.1.source ≠ act.1.target)
    (forces : List (Point α)) (k : Nat) :
    (exchange forces act)[k]? = forces[k]?.map (withPulls [act] k) := by
  rw [exchange, List.getElem?_modify, List.getElem?_modify]
  cases forces[k]? with
  | none => rfl
  | some force =>
    refine congrArg some ?_
    change (if act.1.source = k then (if act.1.target = k then force.add act.2 else force).sub act.2
      else if act.1.target = k then force.add act.2 else force) =
        if k == act.1.source then force.sub act.2
        else if k == act.1.target then force.add act.2 else force
    simp only [beq_iff_eq, eq_comm (a := k)]
    by_cases hsource : act.1.source = k
    · rw [if_pos hsource, if_pos hsource, if_neg fun htarget => h (hsource.trans htarget.symm)]
    · rw [if_neg hsource, if_neg hsource]

theorem withPulls_append (acts more : List (Spring × Point α)) (k : Nat) (force : Point α) :
    withPulls (acts ++ more) k force = withPulls more k (withPulls acts k force) :=
  List.foldl_append

theorem getElem?_scatter {acts : List (Spring × Point α)} (h : Loopless (acts.map Prod.fst))
    (forces : List (Point α)) (k : Nat) :
    (scatter acts forces)[k]? = forces[k]?.map (withPulls acts k) := by
  induction acts generalizing forces with
  | nil => exact Option.map_id'.symm
  | cons act acts ih =>
    have hact : act.1.source ≠ act.1.target := h _ List.mem_cons_self
    have hacts : Loopless (acts.map Prod.fst) := fun s hs => h s (List.mem_cons_of_mem _ hs)
    have hrest := ih hacts (exchange forces act)
    rw [getElem?_exchange hact, Option.map_map] at hrest
    exact hrest

/-! ## The pushes of all pairs -/

/-- The push between two numbered nodes, none if they are at one place. It counts for the first node
and against the second. -/
def pushBetween (repulsion : α) (a b : Point α × Nat) : List (Spring × Point α) :=
  ((push? repulsion a.1 b.1).map fun push => (⟨b.2, a.2⟩, push)).toList

/-- The pushes of all pairs of numbered nodes, each node with all later ones. -/
def pushes (repulsion : α) : List (Point α × Nat) → List (Spring × Point α)
  | [] => []
  | a :: rest => rest.flatMap (pushBetween repulsion a) ++ pushes repulsion rest

/-- The force on a numbered node with the push of one more node. -/
def withPush (repulsion : α) (a : Point α × Nat) (force : Point α) (b : Point α × Nat) : Point α :=
  if b.2 < a.2 then match push? repulsion b.1 a.1 with
    | some push => force.sub push
    | none => force
  else if a.2 < b.2 then match push? repulsion a.1 b.1 with
    | some push => force.add push
    | none => force
  else force

section Pushes
variable {repulsion : α} {a b : Point α × Nat} {k : Nat}

theorem withPulls_pushBetween_first (h : a.2 < b.2) (force : Point α) :
    withPulls (pushBetween repulsion a b) a.2 force = withPush repulsion a force b := by
  rw [pushBetween, withPush, if_neg (Nat.lt_asymm h), if_pos h]
  cases push? repulsion a.1 b.1 with
  | none => rfl
  | some push => simp [withPulls, Nat.ne_of_lt h]

theorem withPulls_pushBetween_second (h : a.2 < b.2) (force : Point α) :
    withPulls (pushBetween repulsion a b) b.2 force = withPush repulsion b force a := by
  rw [pushBetween, withPush, if_pos h]
  cases push? repulsion a.1 b.1 with
  | none => rfl
  | some push => simp [withPulls]

theorem withPulls_pushBetween_of_ne (ha : k ≠ a.2) (hb : k ≠ b.2) (force : Point α) :
    withPulls (pushBetween repulsion a b) k force = force := by
  rw [pushBetween]
  cases push? repulsion a.1 b.1 with
  | none => rfl
  | some push => simp [withPulls, ha, hb]

theorem withPulls_row (rest : List (Point α × Nat)) (force : Point α) :
    withPulls (rest.flatMap (pushBetween repulsion a)) k force =
      rest.foldl (fun force b => withPulls (pushBetween repulsion a b) k force) force :=
  List.foldl_flatMap

theorem withPulls_pushes_of_not_mem {places : List (Point α × Nat)}
    (h : k ∉ places.map Prod.snd) (force : Point α) :
    withPulls (pushes repulsion places) k force = force := by
  induction places generalizing force with
  | nil => rfl
  | cons a rest ih =>
    rw [List.map_cons, List.mem_cons, not_or] at h
    have hrow : withPulls (rest.flatMap (pushBetween repulsion a)) k force = force := by
      rw [withPulls_row]
      refine foldl_eq_self (fun b hb force => ?_) force
      exact withPulls_pushBetween_of_ne h.1 (fun heq => h.2 (heq ▸ List.mem_map_of_mem hb)) force
    rw [pushes, withPulls_append, hrow]
    exact ih h.2 force

/-- A later node meets the first one once in its row. -/
theorem withPulls_row_of_mem {rest : List (Point α × Nat)} (hrest : Ascending rest)
    (ha : a ∈ rest) (hab : b.2 < a.2) (force : Point α) :
    withPulls (rest.flatMap (pushBetween repulsion b)) a.2 force =
      withPush repulsion a force b := by
  obtain ⟨front, back, rfl⟩ := List.append_of_mem ha
  obtain ⟨-, hback, hfront⟩ := List.pairwise_append.1 hrest
  have hne : a.2 ≠ b.2 := Nat.ne_of_lt' hab
  have hbefore : ∀ c ∈ front, ∀ force,
      withPulls (pushBetween repulsion b c) a.2 force = force := fun c hc =>
    withPulls_pushBetween_of_ne hne (Nat.ne_of_lt' (hfront c hc a List.mem_cons_self))
  have hbehind : ∀ c ∈ back, ∀ force,
      withPulls (pushBetween repulsion b c) a.2 force = force := fun c hc =>
    withPulls_pushBetween_of_ne hne (Nat.ne_of_lt ((List.pairwise_cons.1 hback).1 c hc))
  rw [withPulls_row, List.foldl_append, List.foldl_cons, foldl_eq_self hbefore,
    foldl_eq_self hbehind, withPulls_pushBetween_second hab]

/-- A node of the list gets the pushes of all others, in the order of the list. -/
theorem withPulls_pushes {places : List (Point α × Nat)} (hplaces : Ascending places)
    (ha : a ∈ places) (force : Point α) :
    withPulls (pushes repulsion places) a.2 force = places.foldl (withPush repulsion a) force := by
  induction places generalizing force with
  | nil => cases ha
  | cons b rest ih =>
    obtain ⟨hb, hrest⟩ := List.pairwise_cons.1 hplaces
    rw [pushes, withPulls_append, List.foldl_cons]
    rcases List.mem_cons.1 ha with rfl | ha
    · -- The first node meets all others in its own row.
      have hnew : a.2 ∉ rest.map Prod.snd := by
        intro hmem
        obtain ⟨c, hc, heq⟩ := List.mem_map.1 hmem
        exact Nat.ne_of_lt' (hb c hc) heq
      have hself : withPush repulsion a force a = force := by simp [withPush]
      rw [withPulls_pushes_of_not_mem hnew, withPulls_row, hself]
      exact List.foldl_ext _ _ _ fun force c hc => withPulls_pushBetween_first (hb c hc) force
    · -- A later node meets the first one in its row, and the others in the rows behind it.
      rw [withPulls_row_of_mem hrest ha (hb a ha)]
      exact ih hrest ha _

end Pushes

/-! ## The forces of a step -/

theorem mem_pushes {repulsion : α} {places : List (Point α × Nat)} (h : Ascending places)
    {act : Spring × Point α} (hact : act ∈ pushes repulsion places) :
    ∃ a ∈ places, ∃ b ∈ places, a.2 < b.2 ∧ act.1 = ⟨b.2, a.2⟩ := by
  induction places with
  | nil => cases hact
  | cons a rest ih =>
    obtain ⟨ha, hrest⟩ := List.pairwise_cons.1 h
    rw [pushes, List.mem_append] at hact
    rcases hact with hact | hact
    · obtain ⟨b, hb, hpush⟩ := List.mem_flatMap.1 hact
      obtain ⟨push, -, rfl⟩ := Option.map_eq_some_iff.1 (Option.mem_toList.1 hpush)
      exact ⟨a, List.mem_cons_self, b, List.mem_cons_of_mem a hb, ha b hb, rfl⟩
    · obtain ⟨b, hb, c, hc, hjoin⟩ := ih hrest hact
      exact ⟨b, List.mem_cons_of_mem a hb, c, List.mem_cons_of_mem a hc, hjoin⟩

theorem mem_pulls {attraction : α} {springs : List Spring} {places : Array (Point α)}
    {pull : Spring × Point α} (h : pull ∈ pulls attraction springs places) :
    pull.1 ∈ springs ∧ pull.1.source < places.size ∧ pull.1.target < places.size := by
  obtain ⟨s, hs, hpull⟩ := List.mem_filterMap.1 h
  split at hpull
  · next p q hp hq =>
    obtain ⟨v, -, rfl⟩ := Option.map_eq_some_iff.1 hpull
    exact ⟨hs, (Array.getElem?_eq_some_iff.1 hp).1, (Array.getElem?_eq_some_iff.1 hq).1⟩
  · cases hpull

/-- All that acts between two nodes in a step, pushes in front of pulls. -/
def acts (config : ForceConfig α) (springs : List Spring) (places : List (Point α)) :
    List (Spring × Point α) :=
  pushes config.repulsion places.zipIdx ++ pulls config.attraction springs places.toArray

theorem mem_acts {config : ForceConfig α} {springs : List Spring} (h : Loopless springs)
    {places : List (Point α)} {act : Spring × Point α} (hact : act ∈ acts config springs places) :
    act.1.source ≠ act.1.target ∧ act.1.source < places.length ∧ act.1.target < places.length := by
  rw [acts, List.mem_append] at hact
  rcases hact with hact | hact
  · obtain ⟨a, ha, b, hb, hlt, hends⟩ := mem_pushes (ascending_zipIdx places 0) hact
    rw [hends]
    exact ⟨Nat.ne_of_lt' hlt, List.snd_lt_of_mem_zipIdx hb, List.snd_lt_of_mem_zipIdx ha⟩
  · obtain ⟨hspring, hsource, htarget⟩ := mem_pulls hact
    exact ⟨h _ hspring, hsource, htarget⟩

/-- The forces of a step come out of one pass over all that acts between two nodes. -/
theorem forces_eq_scatter (config : ForceConfig α) {springs : List Spring} (h : Loopless springs)
    (places : List (Point α)) :
    forces config springs places =
      scatter (acts config springs places) (List.replicate places.length Point.zero) := by
  refine List.ext_getElem? fun k => ?_
  have hloopless : Loopless ((acts config springs places).map Prod.fst) := by
    intro s hs
    obtain ⟨act, hact, rfl⟩ := List.mem_map.1 hs
    exact (mem_acts h hact).1
  rw [getElem?_scatter hloopless, forces, List.getElem?_map,
    List.getElem?_zipIdx, List.getElem?_replicate, Nat.zero_add]
  cases hk : places[k]? with
  | none =>
    rw [if_neg (by simpa using hk)]
    rfl
  | some p =>
    have hmem : (p, k) ∈ places.zipIdx := List.mem_zipIdx_iff_getElem?.2 hk
    rw [if_pos (List.getElem?_eq_some_iff.1 hk).1]
    have hpushes : withPulls (pushes config.repulsion places.zipIdx) k Point.zero =
        pushesOn config.repulsion places.zipIdx k p :=
      withPulls_pushes (ascending_zipIdx places 0) hmem Point.zero
    simp only [Option.map_some, acts, withPulls_append, hpushes]

end RefAtlas.Layout
