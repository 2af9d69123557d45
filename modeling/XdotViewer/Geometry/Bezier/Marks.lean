import XdotViewer.Geometry.Bezier.Flattening
import XdotViewer.Geometry.Bezier.Polynomial

/-! # Marks, dashes and dots

Marks lie evenly along the drawn length of a curve, not along its parameter. What is left after
the last mark goes over to the next curve of a path. Placing them need not come to an end, and where
it does not, there are no marks, dashes or dots.
-/

namespace XdotViewer

/-- Parameters of marks, and the way that is left to the next one. -/
structure Marks (α : Type) where
  times : List α
  next : α

/-- Where a path stands between dashes: the way to the next change, and whether a dash is open. -/
structure DashPhase (α : Type) where
  next : α
  drawing : Bool

namespace Marks

variable {α : Type} [Scalar α]

/-- The state of walking along a polyline: the marks so far, newest first, the parameter reached
and the way to the next mark. -/
structure Walk (α : Type) where
  times : List α
  t : α
  next : α

/-- Places marks on one chord while enough of its length remains. There is no result if that never
changes: a double that is large enough stays as it is when the distance is taken away from it. -/
def Walk.onChord? (distance length width step remaining : α) (walk : Walk α) : Option (Walk α) :=
  if walk.next ≤ remaining then
    let remaining := remaining - walk.next
    let t := walk.t + step
    if distance == walk.next then
      { walk with times := t :: walk.times, t }
        |>.onChord? distance length width step remaining
    else
      { times := t :: walk.times, t, next := distance : Walk α }
        |>.onChord? distance length width (distance / length * width) remaining
  else some { walk with next := walk.next - remaining }
partial_fixpoint

/-- Walks along the chord from `origin` to the end of a piece. -/
def alongPiece? (distance : α) (origin : Point α) (piece : ChordPoint α) (walk : Walk α) :
    Option (Walk α) :=
  let length := piece.point.distance origin
  let width : α := Scalar.ofRat piece.width
  if length == 0.0 then some { walk with t := walk.t + width }
  else
    (walk.onChord? distance length width (walk.next / length * width) length).map fun walked =>
      { walked with t := Scalar.ofRat piece.tEnd }

/-- Walks along the pieces in order. -/
def alongPieces? (distance : α) : List (ChordPoint α) → Walk α → Option (Walk α)
  | previous :: piece :: rest, walk => do
    let walked ← alongPiece? distance previous.point piece walk
    alongPieces? distance (piece :: rest) walked
  | _, walk => some walk

end Marks

namespace Bezier

variable {α : Type} [Scalar α]

/-- Marks every `distance` units of drawn length, the first after `first` units, or after
`distance` when `first` is not positive. -/
def marks? (b : Bezier α) (distance first : α) : Option (Marks α) :=
  let next := if 0.0 < first then first else distance
  if 0.0 < distance && Scalar.isFinite distance then
    (Marks.alongPieces? distance b.chordPoints ⟨[], 0.0, next⟩).map fun walk =>
      ⟨walk.times.reverse, walk.next⟩
  else some ⟨[], next⟩

/-- The parts of the curve between the first and second, third and fourth parameter, and so on. -/
def cut (b : Bezier α) : List α → List (Bezier α)
  | t₁ :: t₂ :: rest => b.between t₁ t₂ :: b.cut rest
  | _ => []

/-- The dashes between some marks of the curve, and the phase for the curve that follows. -/
def dashesBetween (b : Bezier α) (drawing : Bool) (marks : Marks α) :
    List (Bezier α) × DashPhase α :=
  let times := if drawing then 0.0 :: marks.times else marks.times
  let stillDrawing := times.length % 2 == 1
  let times := if stillDrawing then times ++ [1.0] else times
  (b.cut times, ⟨marks.next, stillDrawing⟩)

/-- The dashes of the curve, if its marks come to an end, and the phase for the curve that
follows. -/
def dashes? (b : Bezier α) (length : α) (phase : DashPhase α) :
    Option (List (Bezier α) × DashPhase α) :=
  let first := if 0.0 < phase.next then phase.next else length
  (b.marks? length first).map (b.dashesBetween phase.drawing)

/-- The centres of the dots on the curve, if its marks come to an end, and the way to the next
dot. -/
def dots? (b : Bezier α) (spacing first : α) : Option (List (Point α) × α) :=
  let first := if 0.0 < first then first else spacing
  (b.marks? spacing first).map fun marks =>
    let atStart := if spacing == first then [b.pointAt 0.0] else []
    (atStart ++ marks.times.map b.pointAt, marks.next)

end Bezier
end XdotViewer
