import XdotViewer.Geometry.Outline
import XdotViewer.Geometry.Rect

/-! # Bezier segments

A segment has one to four control points: a dot, a line, a quadratic or a cubic curve.
-/

namespace XdotViewer

inductive Bezier (α : Type) where
  | dot (p : Point α)
  | line (p q : Point α)
  | quadratic (p c q : Point α)
  | cubic (p c₁ c₂ q : Point α)
deriving DecidableEq, Repr

namespace Bezier

variable {α : Type}

/-- The control points in order. -/
def points : Bezier α → List (Point α)
  | dot p => [p]
  | line p q => [p, q]
  | quadratic p c q => [p, c, q]
  | cubic p c₁ c₂ q => [p, c₁, c₂, q]

/-- The segment with these control points; other counts than one to four make none. -/
def ofPoints? : List (Point α) → Option (Bezier α)
  | [p] => some (dot p)
  | [p, q] => some (line p q)
  | [p, c, q] => some (quadratic p c q)
  | [p, c₁, c₂, q] => some (cubic p c₁ c₂ q)
  | _ => none

/-- The number of control points. -/
def order (b : Bezier α) : Nat :=
  b.points.length

def start : Bezier α → Point α
  | dot p => p
  | line p _ => p
  | quadratic p _ _ => p
  | cubic p _ _ _ => p

def finish : Bezier α → Point α
  | dot p => p
  | line _ q => q
  | quadratic _ _ q => q
  | cubic _ _ _ q => q

/-- The first control point is where the curve starts. -/
theorem head?_points (b : Bezier α) : b.points.head? = some b.start := by
  cases b <;> rfl

/-- The last control point is where the curve ends. -/
theorem getLast?_points (b : Bezier α) : b.points.getLast? = some b.finish := by
  cases b <;> rfl

/-- The segment with a function applied to each control point. -/
def map {β : Type} (f : Point α → Point β) : Bezier α → Bezier β
  | dot p => dot (f p)
  | line p q => line (f p) (f q)
  | quadratic p c q => quadratic (f p) (f c) (f q)
  | cubic p c₁ c₂ q => cubic (f p) (f c₁) (f c₂) (f q)

/-- A curve that is mapped has its points mapped. -/
@[simp] theorem points_map {β : Type} (f : Point α → Point β) (b : Bezier α) :
    (b.map f).points = b.points.map f := by
  cases b <;> rfl

variable [Scalar α]

/-- Segments are equal when their control points are. -/
instance : BEq (Bezier α) := ⟨fun a b => a.points == b.points⟩

def offset (b : Bezier α) (dx dy : α) : Bezier α :=
  b.map fun p => p.offset dx dy

/-- The rectangle around the control points, which holds the whole curve. -/
def box (b : Bezier α) : Rect α :=
  b.points.tail.foldl (fun box q => box.expand (.atPoint q)) (.atPoint b.start)

/-- The length of the way along the control points. -/
def polygonLength (b : Bezier α) : α :=
  Scalar.sum (List.zipWith Point.distance b.points b.points.tail)

def chordLength (b : Bezier α) : α :=
  b.start.distance b.finish

/-- The pen movement from the first to the last point; a dot becomes a hairline. -/
def stroke : Bezier α → Stroke α
  | dot p => .line ⟨p.x + hairline, p.y⟩
  | line _ q => .line q
  | quadratic _ c q => .quad c q
  | cubic _ c₁ c₂ q => .cubic c₁ c₂ q

/-- The outline of a segment that stands alone. -/
def outline (b : Bezier α) : Outline α :=
  [.move b.start, b.stroke]

end Bezier
end XdotViewer
