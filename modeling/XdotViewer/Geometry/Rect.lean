import XdotViewer.Geometry.Point

/-! # Rectangles

Axis-aligned rectangles by their four edges, with the top above the bottom when the vertical
coordinate grows downwards.
-/

namespace XdotViewer

structure Rect (α : Type) where
  left : α
  top : α
  right : α
  bottom : α
deriving BEq, DecidableEq, Repr

namespace Rect

variable {α : Type} [Scalar α]

/-- The empty rectangle at a point. -/
def atPoint (p : Point α) : Rect α :=
  ⟨p.x, p.y, p.x, p.y⟩

/-- The same rectangle with its edges in order. -/
def normalized (r : Rect α) : Rect α :=
  ⟨Scalar.min r.left r.right, Scalar.min r.top r.bottom,
    Scalar.max r.left r.right, Scalar.max r.top r.bottom⟩

def offset (r : Rect α) (dx dy : α) : Rect α :=
  ⟨r.left + dx, r.top + dy, r.right + dx, r.bottom + dy⟩

/-- Moves every edge inwards. -/
def inset (r : Rect α) (dx dy : α) : Rect α :=
  ⟨r.left + dx, r.top + dy, r.right - dx, r.bottom - dy⟩

/-- The rectangle around two rectangles. -/
def expand (r other : Rect α) : Rect α :=
  ⟨Scalar.min r.left other.left, Scalar.min r.top other.top,
    Scalar.max r.right other.right, Scalar.max r.bottom other.bottom⟩

def width (r : Rect α) : α :=
  r.right - r.left

def height (r : Rect α) : α :=
  r.bottom - r.top

/-- Whether a point lies in the rectangle grown by a tolerance on every side. -/
def contains (r : Rect α) (x y tolerance : α) : Bool :=
  let tolerance := Scalar.max tolerance 0.0
  !(x < r.left - tolerance || r.right + tolerance < x ||
    y < r.top - tolerance || r.bottom + tolerance < y)

/-- The corners from the top left one clockwise. -/
def corners (r : Rect α) : List (Point α) :=
  let right := r.left + r.width
  let bottom := r.top + r.height
  [⟨r.left, r.top⟩, ⟨right, r.top⟩, ⟨right, bottom⟩, ⟨r.left, bottom⟩]

/-- The rectangle around some points, starting with the first of them. -/
def around : List (Point α) → Option (Rect α)
  | [] => none
  | p :: rest => some (rest.foldl (fun box q => box.expand (atPoint q)) (atPoint p))

end Rect
end XdotViewer
