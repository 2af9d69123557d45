import XdotViewer.Canvas
import XdotViewer.Raster.Area

/-! # Nibs

A nib that follows a contour covers the strips along its lines, a join at every corner and a cap at
both ends. Each of them is a polygon around the contour, and what they cover together is painted.
-/

namespace XdotViewer

structure Nib where
  /-- Half the width of a line. -/
  half : Float
  cap : LineCap

namespace Nib

/-- The corners without repetitions in a row. A place is smooth if all corners there are. -/
def dropRepeats : Contour → Contour
  | c :: rest =>
    match dropRepeats rest with
    | d :: more =>
      if c.point == d.point then ⟨c.point, c.smooth && d.smooth⟩ :: more else c :: d :: more
    | [] => [c]
  | [] => []

/-- The unit vector from one point to another. -/
def direction (a b : Point Float) : Point Float :=
  let length := a.distance b
  ⟨(b.x - a.x) / length, (b.y - a.y) / length⟩

/-- The strip along a line, which may be made longer at both ends. -/
def strip (nib : Nib) (before after : Float) (a b : Point Float) : Polygon :=
  let d := direction a b
  let corner (p : Point Float) (along across : Float) : Point Float :=
    ⟨p.x + along * d.x - across * d.y, p.y + along * d.y + across * d.x⟩
  [corner a (-before) (-nib.half), corner b after (-nib.half), corner b after nib.half,
    corner a (-before) nib.half]

/-- A join is pointed unless its point would be longer than this many half widths. -/
def miterLimit : Float := 4.0

/-- The join of two lines, on the outer side of the corner. -/
def join (nib : Nib) (a : Point Float) (corner : Corner) (b : Point Float) : Polygon :=
  let c := corner.point
  let d := direction a c
  let e := direction c b
  let turn := d.x * e.y - d.y * e.x
  let cosine := d.x * e.x + d.y * e.y
  if corner.smooth && cosine < 0.9 then .circle c nib.half
  else
    let reach := if 0.0 < turn then nib.half else -nib.half
    let before : Point Float := ⟨c.x + reach * d.y, c.y - reach * d.x⟩
    let after : Point Float := ⟨c.x + reach * e.y, c.y - reach * e.x⟩
    if 1.0 ≤ miterLimit * ((1.0 + cosine) / 2.0).sqrt then
      let reach := reach / (1.0 + cosine)
      [c, before, ⟨c.x + reach * (d.y + e.y), c.y - reach * (d.x + e.x)⟩, after]
    else [c, before, after]

/-- By how much a cap makes the strip of a line longer. -/
def capLength (nib : Nib) : Float :=
  if nib.cap = .square then nib.half else 0.0

/-- The strips and joins of a contour whose first line is made longer at its start. -/
def strips (nib : Nib) : Float → Contour → List Polygon
  | before, [a, b] => [nib.strip before nib.capLength a.point b.point]
  | before, a :: b :: c :: rest =>
    nib.strip before 0.0 a.point b.point :: nib.join a.point b c.point ::
      nib.strips 0.0 (b :: c :: rest)
  | _, _ => []

/-- What a round nib covers at a point. -/
def roundCap (nib : Nib) (p : Point Float) : List Polygon :=
  if nib.cap = .round then [.circle p nib.half] else []

/-- A square around a point. -/
def squareDot (nib : Nib) (p : Point Float) : List Polygon :=
  if nib.cap = .square then
    [[⟨p.x - nib.half, p.y - nib.half⟩, ⟨p.x + nib.half, p.y - nib.half⟩,
      ⟨p.x + nib.half, p.y + nib.half⟩, ⟨p.x - nib.half, p.y + nib.half⟩]]
  else []

/-- What a nib covers along a contour. A contour without length is a dot if the nib has caps, and
one without lines is nothing. -/
def along (nib : Nib) (contour : Contour) : List Polygon :=
  match dropRepeats contour with
  | [] => []
  | [c] => if contour.length < 2 then [] else nib.roundCap c.point ++ nib.squareDot c.point
  | c :: d :: rest =>
    nib.strips nib.capLength (c :: d :: rest) ++ nib.roundCap c.point ++
      ((d :: rest).getLast?.map fun last => nib.roundCap last.point).getD []

/-- What a nib covers along all contours. -/
def cover (nib : Nib) (contours : List Contour) : List Polygon :=
  contours.flatMap nib.along

/-- The share of a line that is seen if it is at most a pixel wide. Then it is drawn one pixel wide
and as faintly as it is narrow; a line without width is not faint. -/
def hairShare? (place : Placement) (width : Float32) : Option Float32 :=
  let across := (width * place.sx).abs
  let down := (width * place.sy).abs
  if width == 0.0 then some 1.0
  else if across ≤ 1.0 && down ≤ 1.0 then some ((across + down) / 2.0)
  else none

end Nib

namespace Area

/-- Whether a point is inside one of some polygons. -/
def insideAny (polygons : List Polygon) (p : Point Float) : Bool :=
  polygons.any fun polygon => polygon.winding p != 0

/-- The area of an outline drawn with a line of some width. -/
def ofStroke? (place : Placement) (width : Float32) (cap : LineCap) (outline : Outline Float32) :
    Option Area := do
  let drawn ← drawn? outline
  if !(0.0 < width && width.isFinite) then none
  else
    let contours := Contour.ofOutline .ofCurve (drawn.map (Stroke.map Point.toDouble))
    let polygons := (Nib.cover ⟨width.toFloat / 2.0, cap⟩ contours).map (·.map Point.toSingle)
    let _ ← extent? polygons.flatten
    let placed := polygons.map (·.map place.apply)
    ofShape? placed.flatten (insideAny (placed.map (·.map Point.toDouble)))

/-- The area of an outline drawn with a line that is one pixel wide. -/
def ofHairline? (place : Placement) (cap : LineCap) (outline : Outline Float32) :
    Option Area := do
  let placed : Outline Float32 := (← drawn? outline).map (Stroke.map place.apply)
  let box ← extent? placed.points
  let frame ← frame? (box.inset (-2.0) (-2.0))
  let contours := Contour.ofOutline .ofCurve (placed.map (Stroke.map Point.toDouble))
  return ⟨frame, insideAny (Nib.cover ⟨0.5, cap⟩ contours)⟩

end Area
end XdotViewer
