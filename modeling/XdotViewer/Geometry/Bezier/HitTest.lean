import XdotViewer.Geometry.Bezier.Flattening

/-! # Hit tests

A point hits a curve when it is near one of the curve's chords. Rectangles around the curve and
around each chord reject most points early.
-/

namespace XdotViewer.Bezier

variable {α : Type} [Scalar α]

def isNearBox (b : Bezier α) (x y tolerance : α) : Bool :=
  b.box.contains x y tolerance

/-- Twice the area of the triangle between a chord and a point. -/
def twiceArea (p q : Point α) (x y : α) : α :=
  Scalar.abs (p.x * q.y + q.x * y + x * p.y - q.x * p.y - x * q.y - p.x * y)

/-- The distance of a point from the line through a chord, or from its point if it is empty. -/
def chordDistance (p q : Point α) (x y : α) : α :=
  let base := p.distance q
  if base == 0.0 then p.distance ⟨x, y⟩ else twiceArea p q x y / base

/-- Whether a point is near the chord from `p` to `q`: near its rectangle and near its line. -/
def isNearChord (p q : Point α) (x y tolerance : α) : Bool :=
  (Rect.mk p.x p.y q.x q.y).normalized.contains x y tolerance &&
    chordDistance p q x y ≤ tolerance

/-- Whether a point is near one of the chords between consecutive points. -/
def isNearPolyline (x y tolerance : α) : List (Point α) → Bool
  | p :: q :: rest => isNearChord p q x y tolerance || isNearPolyline x y tolerance (q :: rest)
  | _ => false

/-- Whether a point lies within a tolerance of the flattened curve. -/
def isNear (b : Bezier α) (x y tolerance : α) : Bool :=
  b.isNearBox x y tolerance &&
    isNearPolyline x y tolerance (b.chordPoints.map ChordPoint.point)

end XdotViewer.Bezier
