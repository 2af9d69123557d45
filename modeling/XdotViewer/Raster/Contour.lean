import XdotViewer.Geometry.Bezier.Polynomial

/-! # Contours

A contour is a way from corner to corner that an outline draws without lifting the pen. Curves are
drawn as short lines. Around a point a contour that is closed turns a number of times.
-/

namespace XdotViewer

/-- A place where a contour may turn; inside a curve it does so smoothly. -/
structure Corner where
  point : Point Float
  smooth : Bool := false

abbrev Contour := List Corner

namespace Contour

def points (contour : Contour) : List (Point Float) :=
  contour.map Corner.point

/-- How far the control points of a curve are from lying evenly on a line. -/
def bulge (b : Bezier Float) : Float :=
  let deviations := (b.points.zip (b.points.drop 1 |>.zip (b.points.drop 2))).map fun (p, c, q) =>
    Point.distance ⟨p.x + q.x, p.y + q.y⟩ ⟨2.0 * c.x, 2.0 * c.y⟩
  deviations.foldl Scalar.max 0.0

/-- The greatest number of lines for a curve. -/
def maxSteps : Nat := 4096

/-- Enough lines for a curve to be a twentieth of a unit off at most, and then a few. -/
def steps (b : Bezier Float) : Nat :=
  (Binary64.toIntWithin 8 maxSteps (.ofFloat (15.0 * bulge b).sqrt)).toNat

/-- The corners along a curve, its start left out. The last is the end of the curve. -/
def ofCurve (b : Bezier Float) : Contour :=
  let steps := steps b
  ((List.range (steps - 1)).map fun i =>
    ⟨b.pointAt (Float.ofNat (i + 1) / Float.ofNat steps), true⟩) ++ [⟨b.finish, false⟩]

/-- The rest of the contour that has come to `pen`, and the contours after it. -/
def trace (curve : Bezier Float → Contour) (pen : Point Float) :
    Outline Float → Contour × List Contour
  | [] => ([], [])
  | .move p :: rest =>
    let (contour, more) := trace curve p rest
    ([], (⟨p, false⟩ :: contour) :: more)
  | .line p :: rest =>
    let (contour, more) := trace curve p rest
    (⟨p, false⟩ :: contour, more)
  | .quad c p :: rest =>
    let (contour, more) := trace curve p rest
    (curve (.quadratic pen c p) ++ contour, more)
  | .cubic c d p :: rest =>
    let (contour, more) := trace curve p rest
    (curve (.cubic pen c d p) ++ contour, more)

/-- The contours of an outline that begins with a move. -/
def ofOutline (curve : Bezier Float → Contour) (outline : Outline Float) : List Contour :=
  (trace curve ⟨0.0, 0.0⟩ outline).2

end Contour

/-- The corners of an area without holes, in order. -/
abbrev Polygon := List (Point Float)

namespace Polygon

/-- On which side of the way from `a` to `b` a point lies: positive on one, negative on the
other. -/
def side (a b p : Point Float) : Float :=
  (b.x - a.x) * (p.y - a.y) - (p.x - a.x) * (b.y - a.y)

/-- How a line adds to the turns around a point. -/
def crossing (a b p : Point Float) : Int :=
  if a.y ≤ p.y then
    if p.y < b.y && 0.0 < side a b p then 1 else 0
  else if b.y ≤ p.y && side a b p < 0.0 then -1 else 0

/-- How often lines from point to point, and from the last to `first`, turn around a point. -/
def windingFrom (first p : Point Float) : Polygon → Int
  | [] => 0
  | [a] => crossing a first p
  | a :: b :: rest => crossing a b p + windingFrom first p (b :: rest)

def winding (polygon : Polygon) (p : Point Float) : Int :=
  match polygon with
  | [] => 0
  | first :: _ => windingFrom first p polygon

/-- How far the control points of an arc are along its tangents, for a quarter of a unit circle. -/
def quarterReach : Float := 0.5522847498307936

/-- A quarter of a circle that starts in the direction `u` from its center and ends in `v`. -/
def quarter (center u v : Point Float) : Polygon :=
  let spot (a b : Float) : Point Float :=
    ⟨center.x + a * u.x + b * v.x, center.y + a * u.y + b * v.y⟩
  let arc : Bezier Float :=
    .cubic (spot 1.0 0.0) (spot 1.0 quarterReach) (spot quarterReach 1.0) (spot 0.0 1.0)
  (List.range 8).map fun i => arc.pointAt (Float.ofNat i / 8.0)

def circle (center : Point Float) (radius : Float) : Polygon :=
  let east : Point Float := ⟨radius, 0.0⟩
  let south : Point Float := ⟨0.0, radius⟩
  let west : Point Float := ⟨-radius, 0.0⟩
  let north : Point Float := ⟨0.0, -radius⟩
  quarter center east south ++ quarter center south west ++ quarter center west north ++
    quarter center north east

end Polygon
end XdotViewer
