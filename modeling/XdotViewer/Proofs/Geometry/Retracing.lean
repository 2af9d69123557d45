import Mathlib.Data.List.Chain
import XdotViewer.Geometry.Path
import XdotViewer.Geometry.Spline

/-! # Retracing an outline

The outline of a path names the start of its first segment only. A pen that keeps its position
draws the right segments all the same if each begins where the one before it ends. Segments that
are built from points, from a rectangle or from an ellipse do.
-/

namespace XdotViewer

variable {α : Type}

namespace Stroke

/-- The point where the pen is left. -/
def target : Stroke α → Point α
  | move p => p
  | line p => p
  | quad _ p => p
  | cubic _ _ p => p

def isMove : Stroke α → Bool
  | move _ => true
  | _ => false

end Stroke

/-- The control points of the segments that a pen draws, starting from its position if it has one. A
pen that has not been put down cannot draw. -/
def Outline.retrace? : Option (Point α) → Outline α → Option (List (List (Point α)))
  | _, [] => some []
  | _, .move p :: rest => retrace? (some p) rest
  | none, _ :: _ => none
  | some pen, step :: rest => (retrace? (some step.target) rest).map ((pen :: step.points) :: ·)

/-- Segments that lead from a point to another, each from the end of the one before it. None of them
is a dot. -/
inductive Trail : Point α → List (Bezier α) → Point α → Prop
  | nil (p : Point α) : Trail p [] p
  | cons {p q : Point α} {b : Bezier α} {rest : List (Bezier α)} (drawn : 1 < b.order)
      (starts : b.start = p) (later : Trail b.finish rest q) : Trail p (b :: rest) q

namespace Trail

variable {p q : Point α} {segments : List (Bezier α)}

/-- A trail begins where its first segment does. -/
theorem start_head? (trail : Trail p segments q) :
    segments.head?.map Bezier.start = if segments.isEmpty then none else some p := by
  cases trail with
  | nil => rfl
  | cons drawn starts later => exact congrArg some starts

/-- A trail ends where its last segment does. -/
theorem finish_getLast? (trail : Trail p segments q) :
    segments.getLast?.map Bezier.finish = if segments.isEmpty then none else some q := by
  induction trail with
  | nil p => rfl
  | cons drawn starts later ih =>
    cases later with
    | nil => rfl
    | cons => exact ih

private theorem isChain (trail : Trail p segments q) :
    segments.IsChain fun b next => b.finish = next.start := by
  induction trail with
  | nil p => exact .nil
  | cons drawn starts later ih =>
    refine List.isChain_cons.mpr ⟨fun next first => ?_, ih⟩
    obtain ⟨rest, rfl⟩ := List.head?_eq_some_iff.mp first
    exact (Option.some.inj later.start_head?).symm

private theorem retrace?_strokes [Scalar α] (trail : Trail p segments q) :
    Outline.retrace? (some p) (segments.map Bezier.stroke) = some (segments.map Bezier.points) := by
  induction trail with
  | nil p => rfl
  | @cons p q b rest drawn starts later ih =>
    subst starts
    cases b with
    | dot p => exact absurd drawn (Nat.lt_irrefl 1)
    | line p q => exact congrArg (Option.map _) ih
    | quadratic p c q => exact congrArg (Option.map _) ih
    | cubic p c d q => exact congrArg (Option.map _) ih

end Trail

section Builders

private theorem exists_trail_linesBetween_cons (p : Point α) (rest : List (Point α)) :
    ∃ q, Trail p (linesBetween (p :: rest)) q := by
  induction rest generalizing p with
  | nil => exact ⟨p, .nil p⟩
  | cons r rest ih =>
    obtain ⟨q, later⟩ := ih r
    exact ⟨q, .cons Nat.one_lt_two rfl later⟩

private theorem Bezier.one_lt_order_cubic (p c d q : Point α) : 1 < (cubic p c d q).order := by
  change 1 < 4
  decide

private theorem exists_trail_splineSegments_cons (p : Point α) (rest : List (Point α)) :
    ∃ q, Trail p (splineSegments (p :: rest)) q := by
  generalize controls : p :: rest = points
  fun_induction splineSegments points generalizing p rest with
  | case1 first c d r others ih =>
    obtain ⟨q, later⟩ := ih r others rfl
    cases controls
    exact ⟨q, .cons (Bezier.one_lt_order_cubic ..) rfl later⟩
  | case2 => exact ⟨p, .nil p⟩

private theorem trail_closedLines (first p : Point α) (rest : List (Point α)) :
    Trail p (closedLines first (p :: rest)) first := by
  induction rest generalizing p with
  | nil => exact .cons Nat.one_lt_two rfl (.nil first)
  | cons r rest ih => exact .cons Nat.one_lt_two rfl (ih r)

variable [Scalar α]

-- Without any point there is nothing to draw, so the trail may begin anywhere.

/-- The lines between points are joined end to end. -/
theorem exists_trail_linesBetween (points : List (Point α)) :
    ∃ p q, Trail p (linesBetween points) q := by
  cases points with
  | nil => exact ⟨⟨0.0, 0.0⟩, _, .nil _⟩
  | cons p rest => exact ⟨p, exists_trail_linesBetween_cons p rest⟩

/-- The segments of a spline are joined end to end. -/
theorem exists_trail_splineSegments (points : List (Point α)) :
    ∃ p q, Trail p (splineSegments points) q := by
  cases points with
  | nil => exact ⟨⟨0.0, 0.0⟩, _, by simpa [splineSegments] using .nil _⟩
  | cons p rest => exact ⟨p, exists_trail_splineSegments_cons p rest⟩

private theorem exists_trail_polygonSegments (points : List (Point α)) :
    ∃ p, Trail p (polygonSegments points) p := by
  cases points with
  | nil => exact ⟨⟨0.0, 0.0⟩, .nil _⟩
  | cons p rest => exact ⟨p, trail_closedLines p p rest⟩

/-- The arcs of an ellipse lead around it, from the top and back to it. -/
theorem Ellipse.trail_segments (e : Ellipse α) :
    Trail ⟨e.cx, e.cy - e.ry⟩ e.segments ⟨e.cx, e.cy - e.ry⟩ :=
  .cons (Bezier.one_lt_order_cubic ..) rfl <| .cons (Bezier.one_lt_order_cubic ..) rfl <|
    .cons (Bezier.one_lt_order_cubic ..) rfl <| .cons (Bezier.one_lt_order_cubic ..) rfl <| .nil _

/-- The segments of a polygon, a rectangle or an ellipse lead back to where they begin. -/
theorem Shape.exists_trail {shape : Shape α} (closed : shape.isSegments = false) :
    ∃ p, Trail p shape.toSegments p := by
  cases shape with
  | segments list => cases closed
  | polygon points => exact exists_trail_polygonSegments points
  | rect r => exact exists_trail_polygonSegments r.corners
  | ellipse e => exact ⟨_, e.trail_segments⟩

end Builders

section Paths

variable [Scalar α] {path : Path α}

/-- The outline of a path goes along its segments without a gap, so a pen draws just them. -/
structure Path.Retraced (path : Path α) : Prop where
  /-- Each segment begins where the one before it ends. -/
  meets : path.segments.IsChain fun b next => b.finish = next.start
  /-- A polygon, a rectangle and an ellipse end where they begin. -/
  closes : path.shape.isSegments = false →
    path.segments.getLast?.map Bezier.finish = path.segments.head?.map Bezier.start
  begins : path.outline.head? = path.segments.head?.map fun b => .move b.start
  moves_once : ∀ step ∈ path.outline.tail, step.isMove = false
  retraces : path.outline.retrace? none = some (path.segments.map Bezier.points)

private theorem Bezier.isMove_stroke (b : Bezier α) : b.stroke.isMove = false := by
  cases b <;> rfl

/-- A path whose segments are joined end to end is retraced by its outline. -/
theorem Path.retraced_of_trail {p q : Point α} (trail : Trail p path.segments q)
    (closed : path.shape.isSegments = false → p = q) : path.Retraced where
  meets := trail.isChain
  closes shape := by rw [trail.start_head?, trail.finish_getLast?, closed shape]
  begins := by
    rw [outline]
    cases path.segments <;> rfl
  moves_once := by
    rw [outline]
    cases path.segments with
    | nil => nofun
    | cons b rest =>
      intro step member
      obtain ⟨c, -, rfl⟩ := List.mem_map.mp member
      exact c.isMove_stroke
  retraces := by
    have drawn := trail.retrace?_strokes
    have starts := trail.start_head?
    rw [outline]
    cases whole : path.segments with
    | nil => rfl
    | cons b rest =>
      rw [whole] at drawn starts
      obtain rfl : b.start = p := Option.some.inj starts
      exact drawn

/-- A polygon, a rectangle and an ellipse are retraced. -/
theorem Path.retraced_of_closed {shape : Shape α} (closed : shape.isSegments = false) :
    (Path.ofShape shape).Retraced := by
  obtain ⟨p, trail⟩ := Shape.exists_trail closed
  have segments : (Path.ofShape shape).segments = shape.toSegments := by cases shape <;> rfl
  exact retraced_of_trail (segments ▸ trail) fun _ => rfl

end Paths
end XdotViewer
