import XdotViewer.Geometry.Bezier.HitTest
import XdotViewer.Geometry.Bezier.Marks

/-! # Paths

A path is described by a shape and drawn as a sequence of segments. The segments of a polygon,
rectangle or ellipse are built when they are first needed, and kept from then on.
-/

namespace XdotViewer

structure Ellipse (α : Type) where
  cx : α
  cy : α
  rx : α
  ry : α
deriving Repr

inductive Shape (α : Type) where
  | segments (list : List (Bezier α))
  /-- The closed outline through the points. -/
  | polygon (points : List (Point α))
  | rect (rect : Rect α)
  | ellipse (ellipse : Ellipse α)
deriving Repr

/-- The lines from each point to the next one, then to `first`. -/
def closedLines {α : Type} (first : Point α) : List (Point α) → List (Bezier α)
  | [] => []
  | [p] => [.line p first]
  | p :: q :: rest => .line p q :: closedLines first (q :: rest)

/-- The lines around a polygon. -/
def polygonSegments {α : Type} : List (Point α) → List (Bezier α)
  | [] => []
  | p :: rest => closedLines p (p :: rest)

variable {α : Type} [Scalar α]

/-- How far the control points of a quarter ellipse lie from its ends, in radii. -/
def kappa : α := 0.5522847498

/-- Four quarter arcs, clockwise from the top. -/
def Ellipse.segments (e : Ellipse α) : List (Bezier α) :=
  let kx := kappa * e.rx
  let ky := kappa * e.ry
  [.cubic ⟨e.cx, e.cy - e.ry⟩ ⟨e.cx + kx, e.cy - e.ry⟩ ⟨e.cx + e.rx, e.cy - ky⟩ ⟨e.cx + e.rx, e.cy⟩,
   .cubic ⟨e.cx + e.rx, e.cy⟩ ⟨e.cx + e.rx, e.cy + ky⟩ ⟨e.cx + kx, e.cy + e.ry⟩ ⟨e.cx, e.cy + e.ry⟩,
   .cubic ⟨e.cx, e.cy + e.ry⟩ ⟨e.cx - kx, e.cy + e.ry⟩ ⟨e.cx - e.rx, e.cy + ky⟩ ⟨e.cx - e.rx, e.cy⟩,
   .cubic ⟨e.cx - e.rx, e.cy⟩ ⟨e.cx - e.rx, e.cy - ky⟩ ⟨e.cx - kx, e.cy - e.ry⟩ ⟨e.cx, e.cy - e.ry⟩]

namespace Shape

def toSegments : Shape α → List (Bezier α)
  | segments list => list
  | polygon points => polygonSegments points
  | rect r => polygonSegments r.corners
  | ellipse e => e.segments

def offset (dx dy : α) : Shape α → Shape α
  | segments list => segments (list.map fun b => b.offset dx dy)
  | polygon points => polygon (points.map fun p => p.offset dx dy)
  | rect r => rect (r.offset dx dy)
  | ellipse e => ellipse { e with cx := e.cx + dx, cy := e.cy + dy }

def isSegments : Shape α → Bool
  | segments _ => true
  | _ => false

end Shape

/-- A shape, and the segments built from it if they have been needed. -/
structure Path (α : Type) where
  shape : Shape α
  built : Option (List (Bezier α)) := none
deriving Repr

namespace Path

def ofShape (shape : Shape α) : Path α :=
  { shape }

/-- The segments of the path: the shape's own, or the ones built before. -/
def segments (path : Path α) : List (Bezier α) :=
  match path.shape, path.built with
  | .segments list, _ => list
  | _, some list => list
  | shape, none => shape.toSegments

/-- Whether the segments are there without building them. -/
def hasSegments (path : Path α) : Bool :=
  path.shape.isSegments || path.built.isSome

/-- The path after its segments have been needed. -/
def build (path : Path α) : Path α :=
  if path.shape.isSegments then path else { path with built := some path.segments }

/-- Adds a segment at the end; the shape becomes the list of its segments. -/
def add (path : Path α) (segment : Bezier α) : Path α :=
  { shape := .segments (path.segments ++ [segment]) }

/-- Moves the shape, and the segments if they have been built. -/
def offset (path : Path α) (dx dy : α) : Path α :=
  { shape := path.shape.offset dx dy
    built := path.built.map fun list => list.map fun b => b.offset dx dy }

/-- The rectangle around all control points; a path without segments has none. -/
def box? (path : Path α) : Option (Rect α) :=
  Rect.around (path.segments.flatMap Bezier.points)

def isNearBox (path : Path α) (x y tolerance : α) : Bool :=
  path.box?.any fun box => box.contains x y tolerance

/-- Whether a point lies within a tolerance of one of the flattened segments. -/
def isNear (path : Path α) (x y tolerance : α) : Bool :=
  path.isNearBox x y tolerance && path.segments.any fun b => b.isNear x y tolerance

/-- The outline: the pen is put down once, at the first segment. -/
def outline (path : Path α) : Outline α :=
  match path.segments with
  | [] => []
  | first :: rest => .move first.start :: (first :: rest).map Bezier.stroke

/-- The dashes of some segments, the phase going over from one to the next. -/
def dashesFrom? (length : α) : DashPhase α → List (Bezier α) → Option (List (Bezier α))
  | _, [] => some []
  | phase, b :: rest => do
    let (dashes, phase) ← b.dashes? length phase
    let others ← dashesFrom? length phase rest
    return dashes ++ others

/-- The dashes of the whole path, which begins with a dash. -/
def dashes? (path : Path α) (length : α) : Option (List (Bezier α)) :=
  dashesFrom? length ⟨length, true⟩ path.segments

def dashedOutline? (path : Path α) (length : α) : Option (Outline α) :=
  (path.dashes? length).map fun dashes => dashes.flatMap Bezier.outline

/-- The dots of some segments, the way to the next dot going over from one to the next. -/
def dotsFrom? (spacing : α) : α → List (Bezier α) → Option (List (Point α))
  | _, [] => some []
  | next, b :: rest => do
    let (dots, next) ← b.dots? spacing next
    let others ← dotsFrom? spacing next rest
    return dots ++ others

def dots? (path : Path α) (spacing : α) : Option (List (Point α)) :=
  dotsFrom? spacing spacing path.segments

def dottedOutline? (path : Path α) (spacing : α) : Option (Outline α) :=
  (path.dots? spacing).map fun dots => dots.flatMap Outline.dot

end Path
end XdotViewer
