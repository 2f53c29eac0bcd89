import RefAtlas.Graph.Basic
import RefAtlas.Layout.Arrangement
import RefAtlas.Layout.Config
import RefAtlas.Layout.Keystream

/-! # Simulated forces

Nodes push each other away and edges pull their ends together. In every step the forces change the
velocities, the velocities lose a share of themselves and may be bounded, and the nodes move.

* `push?`, `pull?`: the force between two nodes. There is none between nodes at the same place.
* `Motion.step`: one step of all nodes; `Motion.after`: any number of them.
* `centred`: the places with the middle of their bounding box at the origin.
* `simulate`: the whole, from distinct ids and a seed; `ForceLayout.arrange` turns the places, which
  are centres, into rectangles.
-/

namespace RefAtlas.Layout
open RefAtlas.Graph RefAtlas.Number
set_option autoImplicit false

variable {α : Type} [Scalar α]

/-! ## Forces -/

/-- The push that a node at `q` gives a node at `p`. -/
@[specialize] def push? (repulsion : α) (p q : Point α) : Option (Point α) :=
  let delta := p.sub q
  let distance := delta.hypot
  if Scalar.eq distance Scalar.zero then none
  else some (delta.scale (repulsion / (distance * distance) / distance))

/-- The pull between the ends of an edge from a node at `p` to a node at `q`. -/
@[specialize] def pull? (attraction : α) (p q : Point α) : Option (Point α) :=
  let delta := p.sub q
  let distance := delta.hypot
  if Scalar.eq distance Scalar.zero then none else some (delta.scale attraction)

/-- The pushes on the `k`-th node, at `p`, of all nodes in their order. A push between two nodes
is computed from the earlier to the later one and counts with opposite signs for them. -/
@[specialize] def pushesOn (repulsion : α) (places : List (Point α × Nat)) (k : Nat)
    (p : Point α) : Point α :=
  places.foldl (fun force (q, i) =>
    if i < k then match push? repulsion q p with
      | some push => force.sub push
      | none => force
    else if k < i then match push? repulsion p q with
      | some push => force.add push
      | none => force
    else force) Point.zero

/-- An edge between two nodes, given by their numbers. -/
structure Spring where
  source : Nat
  target : Nat
deriving DecidableEq

/-- The pull of each edge at the given places. -/
@[specialize] def pulls (attraction : α) (springs : List Spring) (places : Array (Point α)) :
    List (Spring × Point α) :=
  springs.filterMap fun s =>
    match places[s.source]?, places[s.target]? with
    | some p, some q => (pull? attraction p q).map fun pull => (s, pull)
    | _, _ => none

/-- The force on the `k`-th node when the pulls of its edges are added, in the order of the edges. -/
@[specialize] def withPulls (pulls : List (Spring × Point α)) (k : Nat) (force : Point α) :
    Point α :=
  pulls.foldl (fun force (s, pull) =>
    if k == s.source then force.sub pull
    else if k == s.target then force.add pull
    else force) force

/-! ## Motion -/

structure Body (α : Type) where
  position : Point α
  velocity : Point α

structure Motion (α : Type) where
  bodies : List (Body α)
  /-- The sum of all speeds after each step, the latest first. -/
  speeds : List α

@[specialize] def forces (config : ForceConfig α) (springs : List Spring)
    (places : List (Point α)) : List (Point α) :=
  let numbered := places.zipIdx
  let pulls := pulls config.attraction springs places.toArray
  numbered.map fun (p, k) => withPulls pulls k (pushesOn config.repulsion numbered k p)

@[specialize] def bounded (maxSpeed : Option α) (velocity : Point α) : Point α :=
  match maxSpeed with
  | some limit =>
    let speed := velocity.hypot
    if Scalar.lt limit speed then velocity.scale (limit / speed) else velocity
  | none => velocity

@[specialize] def Body.move (config : ForceConfig α) (body : Body α) (force : Point α) : Body α :=
  let velocity := bounded config.maxSpeed ((body.velocity.add force).scale config.damping)
  ⟨body.position.add velocity, velocity⟩

@[specialize] def Motion.step (config : ForceConfig α) (springs : List Spring) (m : Motion α) :
    Motion α :=
  let bodies := m.bodies.zipWith (Body.move config)
    (forces config springs (m.bodies.map Body.position))
  ⟨bodies, Scalar.sum (bodies.map fun b => b.velocity.hypot) :: m.speeds⟩

def Motion.start (places : List (Point α)) : Motion α :=
  ⟨places.map fun p => ⟨p, Point.zero⟩, []⟩

@[specialize] def Motion.after (config : ForceConfig α) (springs : List Spring) (n : Nat)
    (m : Motion α) : Motion α :=
  Nat.repeat (Motion.step config springs) n m

/-! ## The start and the end -/

/-- The random coordinate of a word, between `-half` and `half`. -/
def coordinate (half : α) (word : UInt32) : α :=
  Scalar.ofNat (word >>> 9).toNat / Scalar.ofNat 8388608 * (half - -half) + -half

def pointsOfWords (half : α) : List UInt32 → List (Point α)
  | w :: w' :: rest => ⟨coordinate half w, coordinate half w'⟩ :: pointsOfWords half rest
  | _ => []

def startPlaces (config : ForceConfig α) (n : Nat) : List (Point α) :=
  pointsOfWords (config.spread / Scalar.ofNat 2)
    (Keystream.randomWords (UInt64.ofNat (config.seed.getD 0)) (2 * n))

/-- The least coordinates of points, none above the greatest coordinate there is. -/
def lowerCorner (places : List (Point α)) : Point α :=
  places.foldl (fun m p => ⟨Scalar.min m.x p.x, Scalar.min m.y p.y⟩)
    ⟨Scalar.largest, Scalar.largest⟩

/-- The greatest coordinates of points, none below the least coordinate there is. -/
def upperCorner (places : List (Point α)) : Point α :=
  places.foldl (fun m p => ⟨Scalar.max m.x p.x, Scalar.max m.y p.y⟩)
    ⟨-Scalar.largest, -Scalar.largest⟩

/-- The points moved so that the middle of their bounding box is the origin. -/
def centred (places : List (Point α)) : List (Point α) :=
  let middle := ((lowerCorner places).add (upperCorner places)).scale
    (Scalar.ofNat 1 / Scalar.ofNat 2)
  places.map fun p => p.sub middle

/-! ## The layout -/

/-- The edges between two different nodes of a list, by their numbers there. -/
def springsOf (ids : List String) (edges : List Edge) : List Spring :=
  edges.filterMap fun e =>
    match ids.idxOf? e.source, ids.idxOf? e.target with
    | some s, some t => if s == t then none else some ⟨s, t⟩
    | _, _ => none

structure ForceLayout (α : Type) where
  centres : Dictionary (Point α)
  /-- The sum of all speeds after each step, the earliest first. -/
  speedTrace : List α

@[specialize] def simulateFrom (config : ForceConfig α) (ids : List String) (edges : List Edge)
    (places : List (Point α)) : ForceLayout α :=
  let motion := (Motion.start places).after config (springsOf ids edges) config.steps
  { centres := Dictionary.ofList (ids.zip (centred (motion.bodies.map Body.position)))
    speedTrace := motion.speeds.reverse }

/-- Simulates the distinct nodes of a list. Edges with unknown or equal ends do nothing. -/
@[specialize] def simulate (nodes : List String) (edges : List Edge) (config : ForceConfig α) :
    Except ConfigFault (ForceLayout α) := do
  config.validate
  let ids := nodes.eraseDups
  return simulateFrom config ids edges (startPlaces config ids.length)

def least? (xs : List α) : Option α :=
  match xs with
  | [] => none
  | x :: rest => some (rest.foldl Scalar.min x)

def Rect.around (centre : Point α) (size : Size α) : Rect α :=
  .ofCorner (centre.sub ⟨size.width / Scalar.ofNat 2, size.height / Scalar.ofNat 2⟩) size

/-- The vector that moves the least sides of rectangles to the origin of the layout. -/
def shiftTo (origin : Point α) (rects : List (Rect α)) : Option (Point α) :=
  match least? (rects.map Rect.x), least? (rects.map Rect.y) with
  | some x, some y =>
    if Scalar.isFinite x && Scalar.isFinite y then some (origin.sub ⟨x, y⟩) else none
  | _, _ => none

/-- Rectangles around the centres, moved so that their least sides lie at `origin`. -/
def ForceLayout.arrange (layout : ForceLayout α) (sizes : Dictionary (Size α))
    (defaultSize : Size α) (origin : Point α) : Arrangement α :=
  let rects := layout.centres.mapEntries fun id centre =>
    Rect.around centre ((sizes.get? id).getD defaultSize)
  .flat (match shiftTo origin rects.values with
    | some shift => rects.mapEntries fun _ r => r.translate shift
    | none => rects)

end RefAtlas.Layout
