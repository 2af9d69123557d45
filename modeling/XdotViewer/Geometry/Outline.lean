import XdotViewer.Geometry.Point

/-! # Outlines

An outline is a list of pen movements, as a drawing surface takes them.
-/

namespace XdotViewer

inductive Stroke (α : Type) where
  | move (target : Point α)
  | line (target : Point α)
  | quad (control target : Point α)
  | cubic (control₁ control₂ target : Point α)
deriving BEq, DecidableEq, Repr

namespace Stroke

/-- The points that a pen movement names, its end last. -/
def points {α : Type} : Stroke α → List (Point α)
  | move p => [p]
  | line p => [p]
  | quad c p => [c, p]
  | cubic c d p => [c, d, p]

/-- The movement with a function applied to each of its points. -/
def map {α β : Type} (f : Point α → Point β) : Stroke α → Stroke β
  | move p => .move (f p)
  | line p => .line (f p)
  | quad c p => .quad (f c) (f p)
  | cubic c d p => .cubic (f c) (f d) (f p)

end Stroke

abbrev Outline (α : Type) := List (Stroke α)

namespace Outline

variable {α : Type}

def points (outline : Outline α) : List (Point α) :=
  outline.flatMap Stroke.points

/-- Of moves in a row only the last one counts. -/
def dropMoves : Outline α → Outline α
  | .move _ :: .move q :: rest => dropMoves (.move q :: rest)
  | step :: rest => step :: dropMoves rest
  | [] => []

end Outline

variable {α : Type} [Scalar α]

/-- The length of the nub that makes a single point visible under a round cap. -/
def hairline : α := 0.05

/-- A single point as a hairline. -/
def Outline.dot (p : Point α) : Outline α :=
  [.move p, .line ⟨p.x + hairline, p.y⟩]

end XdotViewer
