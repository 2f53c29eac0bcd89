import Mathlib.Data.List.Induction
import Mathlib.Order.Bounds.Image
import RefAtlas.Layout.Plan
import RefAtlas.Proofs.Dictionary
import RefAtlas.Proofs.Number.Rational

/-! # Centring and placing are rigid

Places are centred by one shift, and rectangles around centres are moved by another one. Over exact
coordinates the first puts the least and the greatest coordinates opposite to each other, and the
second puts the least sides at the origin of the layout, whatever the sizes are: the node that is
furthest to the left need not have the rectangle that is.

* `isLeast_foldl_min`, `isGreatest_foldl_max`: what a running minimum or maximum ends with.
* `centred_eq_map`, `exists_opposite`: the places with their middle at the origin.
* `exists_shiftTo`, `exists_arrange_eq`: the rectangles with their least sides at the origin.
* `Rect.centre`: the middle of a rectangle; `arrange_rigid`: all of it, and the same for moved
  centres.
-/

namespace RefAtlas.Layout
open RefAtlas.Number
set_option autoImplicit false

/-! ## Least and greatest members -/

section Extremes
variable {β : Type} [LinearOrder β]

theorem isLeast_foldl_min (xs : List β) (start : β) :
    IsLeast {x | x ∈ start :: xs} (xs.foldl min start) := by
  induction xs using List.reverseRecOn with
  | nil => simp
  | append_singleton xs x ih =>
    have hmembers : {y | y ∈ start :: (xs ++ [x])} = {y | y ∈ start :: xs} ∪ {x} := by
      ext y
      simp only [List.mem_cons, List.mem_append, Set.mem_union, Set.mem_ofPred_eq,
        Set.mem_singleton_iff, List.not_mem_nil, or_false, or_assoc]
    rw [List.foldl_append, hmembers]
    exact ih.union isLeast_singleton

theorem isGreatest_foldl_max (xs : List β) (start : β) :
    IsGreatest {x | x ∈ start :: xs} (xs.foldl max start) :=
  @isLeast_foldl_min βᵒᵈ _ xs start

theorem isLeast_foldl_min_of_le {xs : List β} {start : β} (hne : xs ≠ [])
    (h : ∀ x ∈ xs, x ≤ start) : IsLeast {x | x ∈ xs} (xs.foldl min start) := by
  obtain ⟨hmem, hle⟩ := isLeast_foldl_min xs start
  refine ⟨?_, fun x hx => hle (List.mem_cons_of_mem start hx)⟩
  rcases List.mem_cons.1 hmem with hstart | hmem
  · obtain ⟨x, hx⟩ := List.exists_mem_of_ne_nil xs hne
    have hsame : x = xs.foldl min start :=
      le_antisymm ((h x hx).trans_eq hstart.symm) (hle (List.mem_cons_of_mem start hx))
    exact hsame ▸ hx
  · exact hmem

theorem isGreatest_foldl_max_of_le {xs : List β} {start : β} (hne : xs ≠ [])
    (h : ∀ x ∈ xs, start ≤ x) : IsGreatest {x | x ∈ xs} (xs.foldl max start) :=
  @isLeast_foldl_min_of_le βᵒᵈ _ xs start hne h

theorem isLeast_map {xs : List β} {least : β} {f : β → β} (hf : Monotone f)
    (h : IsLeast {x | x ∈ xs} least) : IsLeast {x | x ∈ xs.map f} (f least) := by
  have hmembers : {x | x ∈ xs.map f} = f '' {x | x ∈ xs} := by
    ext x
    simp
  rw [hmembers]
  exact hf.map_isLeast h

theorem isGreatest_map {xs : List β} {greatest : β} {f : β → β} (hf : Monotone f)
    (h : IsGreatest {x | x ∈ xs} greatest) : IsGreatest {x | x ∈ xs.map f} (f greatest) :=
  @isLeast_map βᵒᵈ _ xs greatest f hf.dual h

end Extremes

/-! ## The middle of the places -/

/-- Every coordinate is one of four bytes, or between two of them. -/
def InRange (p : Point ℚ) : Prop := |p.x| ≤ Scalar.largest ∧ |p.y| ≤ Scalar.largest

theorem lowerCorner_rat (places : List (Point ℚ)) :
    lowerCorner places = ⟨(places.map Point.x).foldl min Scalar.largest,
      (places.map Point.y).foldl min Scalar.largest⟩ := by
  have hfold : ∀ start : Point ℚ,
      places.foldl (fun m p => ⟨Scalar.min m.x p.x, Scalar.min m.y p.y⟩) start =
        ⟨(places.map Point.x).foldl min start.x, (places.map Point.y).foldl min start.y⟩ := by
    induction places with
    | nil => exact fun start => rfl
    | cons p places ih =>
      intro start
      rw [List.foldl_cons, ih, Scalar.min_rat, Scalar.min_rat]
      rfl
  exact hfold _

theorem upperCorner_rat (places : List (Point ℚ)) :
    upperCorner places = ⟨(places.map Point.x).foldl max (-Scalar.largest),
      (places.map Point.y).foldl max (-Scalar.largest)⟩ := by
  have hfold : ∀ start : Point ℚ,
      places.foldl (fun m p => ⟨Scalar.max m.x p.x, Scalar.max m.y p.y⟩) start =
        ⟨(places.map Point.x).foldl max start.x, (places.map Point.y).foldl max start.y⟩ := by
    induction places with
    | nil => exact fun start => rfl
    | cons p places ih =>
      intro start
      rw [List.foldl_cons, ih, Scalar.max_rat, Scalar.max_rat]
      rfl
  exact hfold _

def middleOf (xs : List ℚ) : ℚ :=
  (xs.foldl min Scalar.largest + xs.foldl max (-Scalar.largest)) * (1 / 2)

/-- Seen from their middle, coordinates reach as far to both sides. -/
theorem exists_opposite {xs : List ℚ} (hne : xs ≠ []) (hrange : ∀ x ∈ xs, |x| ≤ Scalar.largest) :
    ∃ reach, IsLeast {x | x ∈ xs.map (· - middleOf xs)} (-reach) ∧
      IsGreatest {x | x ∈ xs.map (· - middleOf xs)} reach := by
  have hleast : IsLeast {x | x ∈ xs} (xs.foldl min Scalar.largest) :=
    isLeast_foldl_min_of_le hne fun x hx => (abs_le.1 (hrange x hx)).2
  have hgreatest : IsGreatest {x | x ∈ xs} (xs.foldl max (-Scalar.largest)) :=
    isGreatest_foldl_max_of_le hne fun x hx => (abs_le.1 (hrange x hx)).1
  have hmono : Monotone fun x : ℚ => x - middleOf xs :=
    fun _ _ hle => sub_le_sub_right hle (middleOf xs)
  have hopposite : xs.foldl min Scalar.largest - middleOf xs =
      -(xs.foldl max (-Scalar.largest) - middleOf xs) := by
    unfold middleOf
    ring
  exact ⟨_, hopposite ▸ isLeast_map hmono hleast, isGreatest_map hmono hgreatest⟩

theorem centred_eq_map (places : List (Point ℚ)) : centred places =
    places.map (·.sub ⟨middleOf (places.map Point.x), middleOf (places.map Point.y)⟩) := by
  rw [centred, lowerCorner_rat, upperCorner_rat]
  simp [middleOf, Point.add, Point.scale]

theorem map_x_centred (places : List (Point ℚ)) : (centred places).map Point.x =
    (places.map Point.x).map (· - middleOf (places.map Point.x)) := by
  simp [centred_eq_map, Point.sub]

theorem map_y_centred (places : List (Point ℚ)) : (centred places).map Point.y =
    (places.map Point.y).map (· - middleOf (places.map Point.y)) := by
  simp [centred_eq_map, Point.sub]

theorem sub_centred {places : List (Point ℚ)} {i j : ℕ} {p q : Point ℚ} (hp : places[i]? = some p)
    (hq : places[j]? = some q) : ∃ p' q', (centred places)[i]? = some p' ∧
      (centred places)[j]? = some q' ∧ p'.sub q' = p.sub q := by
  rw [centred_eq_map, List.getElem?_map, List.getElem?_map, hp, hq]
  exact ⟨_, _, rfl, rfl, by simp [Point.sub]⟩

/-! ## Rectangles around centres -/

def Rect.centre (r : Rect ℚ) : Point ℚ := ⟨r.x + r.width / 2, r.y + r.height / 2⟩

theorem exists_least? {xs : List ℚ} (hne : xs ≠ []) :
    ∃ least, least? xs = some least ∧ IsLeast {x | x ∈ xs} least := by
  cases xs with
  | nil => exact absurd rfl hne
  | cons x xs =>
    have hmin : (Scalar.min : ℚ → ℚ → ℚ) = min := funext fun x => funext (Scalar.min_rat x)
    exact ⟨xs.foldl min x, by rw [least?, hmin], isLeast_foldl_min xs x⟩

/-- The corner of the bounding box of rectangles. -/
structure IsCorner (rects : List (Rect ℚ)) (corner : Point ℚ) : Prop where
  left : IsLeast {x | x ∈ rects.map Rect.x} corner.x
  top : IsLeast {y | y ∈ rects.map Rect.y} corner.y

theorem IsCorner.unique {rects : List (Rect ℚ)} {corner corner' : Point ℚ}
    (h : IsCorner rects corner) (h' : IsCorner rects corner') : corner = corner' := by
  obtain ⟨x, y⟩ := corner
  obtain ⟨x', y'⟩ := corner'
  obtain rfl : x = x' := h.left.unique h'.left
  obtain rfl : y = y' := h.top.unique h'.top
  rfl

theorem map_x_translate (rects : List (Rect ℚ)) (offset : Point ℚ) :
    (rects.map (·.translate offset)).map Rect.x = (rects.map Rect.x).map (· + offset.x) := by
  simp [Rect.translate, Rect.ofCorner, Rect.corner, Point.add]

theorem map_y_translate (rects : List (Rect ℚ)) (offset : Point ℚ) :
    (rects.map (·.translate offset)).map Rect.y = (rects.map Rect.y).map (· + offset.y) := by
  simp [Rect.translate, Rect.ofCorner, Rect.corner, Point.add]

theorem IsCorner.translate {rects : List (Rect ℚ)} {corner : Point ℚ} (h : IsCorner rects corner)
    (offset : Point ℚ) : IsCorner (rects.map (·.translate offset)) (corner.add offset) where
  left := by
    rw [map_x_translate]
    exact isLeast_map (add_left_mono (a := offset.x)) h.left
  top := by
    rw [map_y_translate]
    exact isLeast_map (add_left_mono (a := offset.y)) h.top

theorem exists_shiftTo {rects : List (Rect ℚ)} (hne : rects ≠ []) (origin : Point ℚ) :
    ∃ corner, IsCorner rects corner ∧ shiftTo origin rects = some (origin.sub corner) := by
  obtain ⟨x, hx, hleft⟩ := exists_least? (by simpa using hne : rects.map Rect.x ≠ [])
  obtain ⟨y, hy, htop⟩ := exists_least? (by simpa using hne : rects.map Rect.y ≠ [])
  refine ⟨⟨x, y⟩, ⟨hleft, htop⟩, ?_⟩
  rw [shiftTo, hx, hy]
  rfl

section Arrange
variable {layout : ForceLayout ℚ} (sizes : Dictionary (Size ℚ)) (defaultSize : Size ℚ)
  (origin : Point ℚ)

/-- The rectangles around the centres, not yet moved. -/
def rectsAround (layout : ForceLayout ℚ) (sizes : Dictionary (Size ℚ)) (defaultSize : Size ℚ) :
    Dictionary (Rect ℚ) :=
  layout.centres.mapEntries fun id centre => .around centre (sizeOf sizes defaultSize id)

theorem values_rectsAround_ne_nil (h : layout.centres.entries ≠ []) :
    (rectsAround layout sizes defaultSize).values ≠ [] := by
  simpa [rectsAround, Dictionary.values, Dictionary.mapEntries] using h

/-- The rectangles are moved from the corner of their bounding box to the origin of the layout. -/
theorem exists_arrange_eq (h : layout.centres.entries ≠ []) :
    ∃ corner, IsCorner (rectsAround layout sizes defaultSize).values corner ∧
      layout.arrange sizes defaultSize origin =
        .flat ((rectsAround layout sizes defaultSize).mapEntries fun _ r =>
          r.translate (origin.sub corner)) := by
  obtain ⟨corner, hcorner, hshift⟩ :=
    exists_shiftTo (values_rectsAround_ne_nil sizes defaultSize h) origin
  refine ⟨corner, hcorner, ?_⟩
  simp only [rectsAround, sizeOf] at hshift ⊢
  simp only [ForceLayout.arrange, hshift]

theorem centre_translate_around (centre offset : Point ℚ) (size : Size ℚ) :
    ((Rect.around centre size).translate offset).centre = centre.add offset := by
  simp only [Rect.around, Rect.translate, Rect.ofCorner, Rect.corner, Rect.size, Rect.centre,
    Point.add, Point.sub, Scalar.ofNat_rat, Point.mk.injEq]
  push_cast
  constructor <;> ring

theorem around_add (centre offset : Point ℚ) (size : Size ℚ) :
    Rect.around (centre.add offset) size = (Rect.around centre size).translate offset := by
  simp only [Rect.around, Rect.translate, Rect.ofCorner, Rect.corner, Rect.size, Point.add,
    Point.sub, Rect.mk.injEq]
  refine ⟨?_, ?_, trivial, trivial⟩ <;> ring

theorem translate_translate (r : Rect ℚ) (offset offset' : Point ℚ) :
    (r.translate offset).translate offset' = r.translate (offset.add offset') := by
  simp only [Rect.translate, Rect.ofCorner, Rect.corner, Rect.size, Point.add, Rect.mk.injEq]
  refine ⟨?_, ?_, trivial, trivial⟩ <;> ring

def ForceLayout.moved (layout : ForceLayout ℚ) (offset : Point ℚ) : ForceLayout ℚ :=
  { layout with centres := layout.centres.mapEntries fun _ centre => centre.add offset }

theorem rectsAround_moved (offset : Point ℚ) : rectsAround (layout.moved offset) sizes defaultSize =
    (rectsAround layout sizes defaultSize).mapEntries fun _ r => r.translate offset := by
  rw [rectsAround, rectsAround, ForceLayout.moved, Dictionary.mapEntries_mapEntries,
    Dictionary.mapEntries_mapEntries]
  simp only [around_add]

theorem arrange_moved (h : layout.centres.entries ≠ []) (offset : Point ℚ) :
    (layout.moved offset).arrange sizes defaultSize origin =
      layout.arrange sizes defaultSize origin := by
  have hmoved : (layout.moved offset).centres.entries ≠ [] := by
    simpa [ForceLayout.moved, Dictionary.mapEntries] using h
  obtain ⟨corner, hcorner, heq⟩ := exists_arrange_eq sizes defaultSize origin h
  obtain ⟨corner', hcorner', heq'⟩ := exists_arrange_eq sizes defaultSize origin hmoved
  rw [rectsAround_moved, Dictionary.values_mapEntries] at hcorner'
  have hsame : corner' = corner.add offset := hcorner'.unique (hcorner.translate offset)
  have hback : offset.add (origin.sub (corner.add offset)) = origin.sub corner := by
    simp only [Point.add, Point.sub, Point.mk.injEq]
    constructor <;> ring
  rw [heq, heq', rectsAround_moved, Dictionary.mapEntries_mapEntries, hsame]
  simp only [translate_translate, hback]

theorem isCorner_moved_to_origin {rects : Dictionary (Rect ℚ)} {corner : Point ℚ}
    (h : IsCorner rects.values corner) :
    IsCorner (rects.mapEntries fun _ r => r.translate (origin.sub corner)).values origin := by
  have horigin : corner.add (origin.sub corner) = origin := by
    simp [Point.add, Point.sub]
  have hmoved := h.translate (origin.sub corner)
  rwa [horigin, ← Dictionary.values_mapEntries] at hmoved

end Arrange

/-- Centring keeps the differences of places, and puts the least and the greatest coordinates
opposite to each other. Rectangles are placed around the given centres with the sizes of their
nodes; they keep the differences of the centres, and their least sides lie at the origin of the
layout. So moved centres give the same rectangles. -/
theorem arrange_rigid (places : List (Point ℚ)) (hplaces : places ≠ [])
    (hrange : ∀ p ∈ places, InRange p) (layout : ForceLayout ℚ)
    (hlayout : layout.centres.entries ≠ []) (sizes : Dictionary (Size ℚ)) (defaultSize : Size ℚ)
    (origin : Point ℚ) :
    ((centred places).length = places.length ∧
      (∀ (i j : ℕ) p q, places[i]? = some p → places[j]? = some q → ∃ p' q',
        (centred places)[i]? = some p' ∧ (centred places)[j]? = some q' ∧ p'.sub q' = p.sub q) ∧
      (∃ reach, IsLeast {x | x ∈ (centred places).map Point.x} (-reach) ∧
        IsGreatest {x | x ∈ (centred places).map Point.x} reach) ∧
      ∃ reach, IsLeast {y | y ∈ (centred places).map Point.y} (-reach) ∧
        IsGreatest {y | y ∈ (centred places).map Point.y} reach) ∧
    (∃ rects, layout.arrange sizes defaultSize origin = .flat rects ∧
      rects.keys = layout.centres.keys ∧
      (∀ id rect, rects.get? id = some rect → rect.size = sizeOf sizes defaultSize id) ∧
      (∀ a b p q, layout.centres.get? a = some p → layout.centres.get? b = some q → ∃ r s,
        rects.get? a = some r ∧ rects.get? b = some s ∧ r.centre.sub s.centre = p.sub q) ∧
      IsLeast {x | x ∈ rects.values.map Rect.x} origin.x ∧
      IsLeast {y | y ∈ rects.values.map Rect.y} origin.y) ∧
    ∀ offset, (layout.moved offset).arrange sizes defaultSize origin =
      layout.arrange sizes defaultSize origin := by
  have hx := exists_opposite (by simpa using hplaces : places.map Point.x ≠ []) (by
    intro x hx
    obtain ⟨p, hp, rfl⟩ := List.mem_map.1 hx
    exact (hrange p hp).1)
  have hy := exists_opposite (by simpa using hplaces : places.map Point.y ≠ []) (by
    intro y hy
    obtain ⟨p, hp, rfl⟩ := List.mem_map.1 hy
    exact (hrange p hp).2)
  rw [← map_x_centred] at hx
  rw [← map_y_centred] at hy
  obtain ⟨corner, hcorner, harrange⟩ := exists_arrange_eq sizes defaultSize origin hlayout
  have horigin := isCorner_moved_to_origin origin hcorner
  refine ⟨⟨by simp [centred], fun i j p q => sub_centred, hx, hy⟩,
    ⟨_, harrange, by simp [rectsAround], ?_, ?_, horigin.left, horigin.top⟩,
    arrange_moved sizes defaultSize origin hlayout⟩
  · intro id rect hrect
    simp only [rectsAround, Dictionary.get?_mapEntries, Option.map_map,
      Option.map_eq_some_iff] at hrect
    obtain ⟨centre, -, rfl⟩ := hrect
    rfl
  · intro a b p q hp hq
    simp only [rectsAround, Dictionary.get?_mapEntries, hp, hq, Option.map_some]
    refine ⟨_, _, rfl, rfl, ?_⟩
    rw [centre_translate_around, centre_translate_around]
    simp [Point.add, Point.sub]

/-- A small node furthest to the left, and a wide one to the right of it. -/
def wideRight : ForceLayout ℚ where
  centres := .ofList [("Cart", ⟨-3, 2⟩), ("Item", ⟨1, 0⟩), ("Shop", ⟨0, -5⟩)]
  speedTrace := []

theorem inRange_wideRight : ∀ p ∈ wideRight.centres.values, InRange p := by
  have hrange : ∀ p ∈ wideRight.centres.values,
      |p.x| ≤ (Scalar.largest : ℚ) ∧ |p.y| ≤ (Scalar.largest : ℚ) := by
    decide +kernel
  exact hrange

theorem arrange_rigid_wideRight :
    let sizes : Dictionary (Size ℚ) := .ofList [("Cart", ⟨1, 1⟩), ("Item", ⟨20, 4⟩)]
    let places := wideRight.centres.values
    places ≠ [] ∧ (∀ p ∈ places, InRange p) ∧ wideRight.centres.entries ≠ [] ∧
    (∃ reach, IsLeast {x | x ∈ (centred places).map Point.x} (-reach) ∧
      IsGreatest {x | x ∈ (centred places).map Point.x} reach) ∧
    ∃ rects, wideRight.arrange sizes ⟨2, 2⟩ ⟨5, 5⟩ = .flat rects ∧
      (wideRight.moved ⟨7, -7⟩).arrange sizes ⟨2, 2⟩ ⟨5, 5⟩ = .flat rects ∧
      IsLeast {x | x ∈ rects.values.map Rect.x} 5 ∧
      ∃ cart item, rects.get? "Cart" = some cart ∧ rects.get? "Item" = some item ∧
        item.size = ⟨20, 4⟩ ∧ cart.centre.sub item.centre = ⟨-4, 2⟩ := by
  intro sizes places
  have hplaces : places ≠ [] := by decide
  have hlayout : wideRight.centres.entries ≠ [] := by decide
  have hcart : wideRight.centres.get? "Cart" = some ⟨-3, 2⟩ := by decide
  have hitem : wideRight.centres.get? "Item" = some ⟨1, 0⟩ := by decide
  have hsize : sizeOf sizes ⟨2, 2⟩ "Item" = ⟨20, 4⟩ := by decide
  obtain ⟨⟨-, -, hopposite, -⟩, ⟨rects, harrange, -, hsizes, hcentres, hleft, -⟩, hmoved⟩ :=
    arrange_rigid places hplaces inRange_wideRight wideRight hlayout sizes ⟨2, 2⟩ ⟨5, 5⟩
  obtain ⟨cart, item, hcartRect, hitemRect, hsub⟩ := hcentres "Cart" "Item" _ _ hcart hitem
  refine ⟨hplaces, inRange_wideRight, hlayout, hopposite, rects, harrange,
    (hmoved ⟨7, -7⟩).trans harrange, hleft, cart, item, hcartRect, hitemRect,
    (hsizes "Item" item hitemRect).trans hsize, hsub.trans ?_⟩
  norm_num [Point.sub]

end RefAtlas.Layout
