import XdotViewer.Raster.Contour
import XdotViewer.Raster.Placement

/-! # Areas

An area is a set of pixels to be painted: those of a frame whose centers are inside a shape. The
sides of the frame are words of 32 bits, and a shape that does not fit is left out.
-/

namespace XdotViewer

structure Area where
  /-- The columns and rows that are looked at; the right and the bottom one are outside. -/
  frame : Rect Int
  inside : Point Float → Bool

def pixelCenter (x y : Nat) : Point Float :=
  ⟨Float.ofNat x + 0.5, Float.ofNat y + 0.5⟩

namespace Area

/-- Whether a pixel belongs to the area. -/
def contains (area : Area) (x y : Nat) : Bool :=
  let frame := area.frame
  frame.left ≤ x && (x : Int) < frame.right && frame.top ≤ y && (y : Int) < frame.bottom &&
    area.inside (pixelCenter x y)

/-- The greatest word of 32 bits. -/
def maxWord : Int := 0x7fffffff

/-- The greatest word of 32 bits that has single precision. -/
def maxSingleWord : Int := 0x7fffff80

/-- A whole coordinate as a word, the nearest one when it is out of range. -/
def toWord (x : Float32) : Int :=
  Binary64.toIntWithin (-maxSingleWord) maxSingleWord (.ofFloat x.toFloat)

/-- The first pixel and the one after the last of those from `low` to `high`. Their number is
found in single precision. -/
def span? (low high : Float32) : Option (Int × Int) :=
  let first := toWord low.floor
  let stop := first + max 1 (toWord (high.ceil - low.floor).ceil)
  if stop ≤ maxWord then some (first, stop) else none

/-- The whole pixels around a box. -/
def frame? (box : Rect Float32) : Option (Rect Int) := do
  let (left, right) ← span? box.left box.right
  let (top, bottom) ← span? box.top box.bottom
  return ⟨left, top, right, bottom⟩

/-- Rows are counted in quarters, again as words of 32 bits; what goes beyond wraps around. -/
def wrapRows (frame : Rect Int) : Rect Int :=
  { frame with top := frame.top.bmod 0x40000000, bottom := frame.bottom.bmod 0x40000000 }

/-- No side of a shape is this short. -/
def minSide : Float32 := 0.000244140625

/-- No coordinate of a shape is greater: a quarter of the greatest of single precision. -/
def maxCoordinate : Float32 := 8.5070586659632215e37

/-- The area of a shape with smooth edges, whose control points are given. -/
def ofShape? (controls : List (Point Float32)) (inside : Point Float → Bool) : Option Area := do
  let box ← extent? controls
  if box.width ≤ minSide || box.height ≤ minSide then none
  else if [box.left, box.top, box.right, box.bottom].any fun side => maxCoordinate < side.abs then
    none
  else return ⟨wrapRows (← frame? box), inside⟩

/-- The outline that is drawn: it begins at the origin unless it is moved first. An outline
without lines or with a point out of range draws nothing. -/
def drawn? (outline : Outline Float32) : Option (Outline Float32) :=
  let begun := match outline with
    | .move p :: rest => Outline.dropMoves (.move p :: rest)
    | rest => .move ⟨0.0, 0.0⟩ :: Outline.dropMoves rest
  if begun.length < 2 then none
  else (extent? begun.points).map fun _ => begun

/-- A cubic curve that goes farther than this is filled as if it were a line. -/
def maxCubic : Float := 4194304.0

/-- The corners along a curve whose inside is filled. -/
def filledCurve (b : Bezier Float) : Contour :=
  let far (p : Point Float) := maxCubic < p.x.abs || maxCubic < p.y.abs
  match b with
  | .cubic _ _ _ q => if b.points.any far then [⟨q, false⟩] else .ofCurve b
  | _ => .ofCurve b

/-- The area of a filled outline: the points around which its contours turn, all in all. -/
def ofFill? (place : Placement) (outline : Outline Float32) : Option Area := do
  let placed : Outline Float32 := (← drawn? outline).map (Stroke.map place.apply)
  let contours := Contour.ofOutline filledCurve (placed.map (Stroke.map Point.toDouble))
  let polygons : List Polygon := contours.map Contour.points
  ofShape? placed.points fun p =>
    polygons.foldl (fun turns polygon => turns + polygon.winding p) 0 != 0

/-- The corners of a box clockwise. -/
def boxCorners (width height : Float32) : List (Point Float32) :=
  [⟨0.0, 0.0⟩, ⟨width, 0.0⟩, ⟨width, height⟩, ⟨0.0, height⟩]

/-- The area of a box at the origin, which is not longer than the number of the last column and
not higher than that of the last row. -/
def ofBox? (place : Placement) (width height : Float32) : Option Area :=
  let corners := (boxCorners width height).map place.apply
  let inside (p : Point Float) := Polygon.winding (corners.map Point.toDouble) p != 0
  if place.isIdentity then
    (extent? corners).map fun _ => ⟨⟨0, 0, maxWord, maxWord⟩, inside⟩
  else ofShape? corners inside

/-- The first pixel and the one after the last of those with their center from `low` to `high`,
give or take a little. -/
def nearSpan? (low high : Float32) : Option (Int × Int) :=
  let slack : Float := 0.5234375
  let word (x : Float) := Binary64.toIntWithin (-maxWord - 1) maxWord (.ofFloat x)
  let first := word (low.toFloat - slack).ceil
  let stop := word (high.toFloat + slack).floor
  if first < stop && stop - first ≤ maxWord then some (first, stop) else none

/-- The area of a box with sharp edges. -/
def ofSharpBox? (place : Placement) (width height : Float32) : Option Area := do
  let corners := (boxCorners width height).map place.apply
  let box ← extent? corners
  let (left, right) ← nearSpan? box.left box.right
  let (top, bottom) ← nearSpan? box.top box.bottom
  return ⟨⟨left, top, right, bottom⟩, fun p =>
    Polygon.winding (corners.map Point.toDouble) p != 0⟩

end Area
end XdotViewer
