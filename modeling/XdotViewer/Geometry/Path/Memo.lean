import XdotViewer.Geometry.Bezier.Memo
import XdotViewer.Geometry.Path

/-! # Paths with a memory

A path keeps the segments that are built from its shape, its box, and with each segment what has
been worked out of it. When the path is moved, so are its shape and its segments, and the rest is
forgotten. When a segment is added, the path takes over the segments of its shape as its own.
-/

namespace XdotViewer.Path

/-- Where a path has its segments from. -/
inductive Source (α : Type) [Scalar α] where
  | own (segments : List (Bezier.Memo α))
  /-- A shape that is no list of segments, and the segments once they have been built from it. -/
  | derived (shape : Shape α) (implied : shape.isSegments = false)
    (built : Option (List (Bezier.Memo α)))

/-- A path, and its box once that has been worked out. -/
structure Memo (α : Type) [Scalar α] where
  source : Source α
  box : Option (Option (Rect α)) := none

variable {α : Type} [Scalar α]

/-- A shape that is moved stays a list of segments, or none. -/
theorem isSegments_offset (shape : Shape α) (dx dy : α) :
    (shape.offset dx dy).isSegments = shape.isSegments := by
  cases shape <;> rfl

namespace Source

/-- The segments, with what has been worked out of them. -/
def toSegments : Source α → List (Bezier.Memo α)
  | own list => list
  | derived _ _ (some list) => list
  | derived shape _ none => shape.toSegments.map fun b => { curve := b }

/-- Keeps the segments. -/
def keep (list : List (Bezier.Memo α)) : Source α → Source α
  | own _ => own list
  | derived shape implied _ => derived shape implied (some list)

def offset (dx dy : α) : Source α → Source α
  | own list => own (list.map fun memo => memo.offset dx dy)
  | derived shape implied built =>
    derived (shape.offset dx dy) ((isSegments_offset shape dx dy).trans implied)
      (built.map fun list => list.map fun memo => memo.offset dx dy)

end Source

namespace Memo

/-- A path of which nothing has been worked out. -/
def ofShape : Shape α → Memo α
  | .segments list => { source := .own (list.map fun b => { curve := b }) }
  | .polygon points => { source := .derived (.polygon points) rfl none }
  | .rect r => { source := .derived (.rect r) rfl none }
  | .ellipse e => { source := .derived (.ellipse e) rfl none }

/-- The path without what has been worked out, its segments apart. -/
def path (memo : Memo α) : Path α :=
  match memo.source with
  | .own list => .ofShape (.segments (list.map Bezier.Memo.curve))
  | .derived shape _ built => ⟨shape, built.map fun list => list.map Bezier.Memo.curve⟩

def keep (list : List (Bezier.Memo α)) : StateM (Memo α) Unit :=
  modify fun memo => { memo with source := memo.source.keep list }

/-- The segments of the path, which are built if they have not been. -/
def segments : StateM (Memo α) (List (Bezier.Memo α)) := do
  let list := (← get).source.toSegments
  keep list
  return list

/-- Works something out of the segments, without a memory of their own. -/
def ofSegments {β : Type} (value : Path α → β) : StateM (Memo α) β := do
  let _ ← segments
  return value (← get).path

def box? : StateM (Memo α) (Option (Rect α)) :=
  remember (·.box) (fun v memo => { memo with box := some v }) (ofSegments Path.box?)

def isNearBox (x y tolerance : α) : StateM (Memo α) Bool :=
  return (← box?).any fun box => box.contains x y tolerance

/-- Asks one segment after another, up to the first that the point is near. -/
def anyNear (x y tolerance : α) : List (Bezier.Memo α) → Bool × List (Bezier.Memo α)
  | [] => (false, [])
  | memo :: rest =>
    let (near, memo) := (Bezier.Memo.isNear x y tolerance).run memo
    if near then (true, memo :: rest)
    else
      let (near, rest) := anyNear x y tolerance rest
      (near, memo :: rest)

/-- Asks the segments, and keeps what they work out. -/
def isNearSegment (x y tolerance : α) : StateM (Memo α) Bool := do
  let (near, list) := anyNear x y tolerance (← segments)
  keep list
  return near

def isNear (x y tolerance : α) : StateM (Memo α) Bool := do
  if ← isNearBox x y tolerance then isNearSegment x y tolerance
  else return false

/-- Asks the segment at a place in the path. -/
def ofSegment {β : Type} (i : Nat) (read : StateM (Bezier.Memo α) β) :
    StateM (Memo α) (Option β) := do
  let list ← segments
  match list[i]? with
  | none => return none
  | some memo =>
    let (value, memo) := read.run memo
    keep (list.set i memo)
    return some value

/-- Adds a segment at the end, along with what has been worked out of it. -/
def add (memo : Memo α) (segment : Bezier.Memo α) : Memo α :=
  { source := .own (memo.source.toSegments ++ [segment]) }

def offset (memo : Memo α) (dx dy : α) : Memo α :=
  { source := memo.source.offset dx dy }

end Memo
end XdotViewer.Path
