import XdotViewer.Geometry.Bezier

/-! # Segments through points

A list of points is joined by lines, or read as the control points of cubic segments where each
segment begins with the last point of the one before it.
-/

namespace XdotViewer

variable {α : Type}

/-- The lines from each point to the next. -/
def linesBetween : List (Point α) → List (Bezier α)
  | p :: q :: rest => .line p q :: linesBetween (q :: rest)
  | _ => []

/-- The cubic segments of a spline; points that make no whole segment are left out. -/
def splineSegments : List (Point α) → List (Bezier α)
  | p :: c :: d :: q :: rest => .cubic p c d q :: splineSegments (q :: rest)
  | _ => []
termination_by points => points.length

/-- Whether points are left over that make no whole segment: behind the point that ends the last
one there are others, but not three of them. -/
def hasPartialSegment : List (Point α) → Bool
  | _ :: _ :: _ :: q :: rest => hasPartialSegment (q :: rest)
  | _ :: _ :: _ => true
  | _ => false
termination_by points => points.length

/-- Each segment but the first takes three points. -/
theorem length_splineSegments (points : List (Point α)) :
    (splineSegments points).length = (points.length - 1) / 3 := by
  fun_induction splineSegments points with
  | case1 p c d q rest ih => simp only [List.length_cons, ih]; omega
  | case2 points short =>
    match points with
    | [] => simp
    | [_] => simp
    | [_, _] => simp
    | [_, _, _] => simp
    | p :: c :: d :: q :: rest => exact (short p c d q rest rfl).elim

end XdotViewer
