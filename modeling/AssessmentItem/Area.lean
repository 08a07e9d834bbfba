import AssessmentItem.Binary64.Parts

/-!
# Areas of an image

An area is a region of an image whose points have integer coordinates.  Whether a circle, an
ellipse or a polygon contains a point is decided in floating-point arithmetic; a rectangle is
decided on the integers.

## Main definitions

* `Area` : areas.
* `Area.contains` : whether a point lies in an area.
-/

namespace AssessmentItem

/-- A region of an image. -/
inductive Area
  /-- The whole image. -/
  | everywhere
  /-- A rectangle with its sides; `left` and `right`, or `top` and `bottom`, may be given in either
  order. -/
  | rectangle (left top right bottom : Int64)
  | circle (x y radius : Int64)
  /-- A closed polygon with its `corners`. -/
  | polygon (corners : List (Int64 × Int64))
  | ellipse (x y horizontalRadius verticalRadius : Int64)
  deriving DecidableEq

namespace Area

/-- A point of the plane in floating-point coordinates. -/
structure Position where
  x : Float
  y : Float

/-- The position of the point `(x, y)` with integer coordinates. -/
def position (x y : Int64) : Position := ⟨Binary64.ofInteger x, Binary64.ofInteger y⟩

/-- Whether `x` lies between `a` and `b`, whichever of them is the greater. -/
def isBetween (a b x : Float) : Bool :=
  (if b < a then b else a) ≤ x && x ≤ (if a < b then b else a)

/-- Whether a point lies on the side of a polygon from `a` to `b`. -/
def isOnSide (a b p : Position) : Bool :=
  (p.x - a.x) * (b.y - a.y) - (p.y - a.y) * (b.x - a.x) == 0 &&
    isBetween a.x b.x p.x && isBetween a.y b.y p.y

/-- Whether the ray from a point to the right crosses the side from `a` to `b`. -/
def crosses (a b p : Position) : Bool :=
  (decide (p.y < a.y) != decide (p.y < b.y)) &&
    p.x < a.x + (p.y - a.y) * (b.x - a.x) / (b.y - a.y)

/-- The sides of a polygon: every one of the `corners` with the one before it, the first with the
last. -/
def sides (corners : List Position) : List (Position × Position) :=
  match corners.getLast? with
  | none => []
  | some last => corners.zip (last :: corners.dropLast)

/-- Whether a polygon contains `p`: it lies on a side, or the ray from it to the right crosses an
odd number of sides.  Fewer than three corners enclose nothing. -/
def polygonContains (corners : List Position) (p : Position) : Bool :=
  3 ≤ corners.length &&
    ((sides corners).any (fun s ↦ isOnSide s.1 s.2 p) ||
      (sides corners).foldl (fun inside s ↦ inside != crosses s.1 s.2 p) false)

/-- Whether the point `(px, py)` lies in an area. -/
def contains (px py : Int64) : Area → Bool
  | everywhere => true
  | rectangle left top right bottom =>
    min left right ≤ px && px ≤ max left right && min top bottom ≤ py && py ≤ max top bottom
  | circle x y radius =>
    let dx := Binary64.ofInteger px - Binary64.ofInteger x
    let dy := Binary64.ofInteger py - Binary64.ofInteger y
    let r := Binary64.ofInteger radius
    dx * dx + dy * dy ≤ r * r
  | polygon corners =>
    polygonContains (corners.map fun c ↦ position c.1 c.2) (position px py)
  | ellipse x y horizontalRadius verticalRadius =>
    if horizontalRadius ≤ 0 ∨ verticalRadius ≤ 0 then false
    else
      let dx := (Binary64.ofInteger px - Binary64.ofInteger x) / Binary64.ofInteger horizontalRadius
      let dy := (Binary64.ofInteger py - Binary64.ofInteger y) / Binary64.ofInteger verticalRadius
      dx * dx + dy * dy ≤ 1

end Area

end AssessmentItem
