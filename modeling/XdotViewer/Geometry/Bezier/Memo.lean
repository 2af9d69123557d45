import XdotViewer.Geometry.Bezier.HitTest
import XdotViewer.Geometry.Bezier.Polynomial

/-! # Segments with a memory

What is worked out of a segment is kept with it and not worked out again. Moving the segment forgets
all of it.
-/

namespace XdotViewer

/-- The value of a cell. If the cell is empty, the value is worked out and put into it. -/
def remember {σ β : Type} (cell : σ → Option β) (fill : β → σ → σ) (work : StateM σ β) :
    StateM σ β := do
  match cell (← get) with
  | some value => return value
  | none =>
    let value ← work
    modify (fill value)
    return value

namespace Bezier

/-- What has been worked out of a segment. -/
structure Cells (α : Type) where
  box : Option (Rect α) := none
  polygonLength : Option α := none
  chordLength : Option α := none
  /-- The parts before and after the middle of the parameter range. -/
  halves : Option (Bezier α × Bezier α) := none
  chordPoints : Option (List (ChordPoint α)) := none
  /-- The coefficients of the two coordinates. -/
  coefficients : Option (List α × List α) := none

/-- A segment, and what has been worked out of it so far. -/
structure Memo (α : Type) where
  curve : Bezier α
  cells : Cells α := {}

namespace Memo

variable {α : Type}

/-- Works something out of the curve alone. -/
def ofCurve {β : Type} (value : Bezier α → β) : StateM (Memo α) β :=
  return value (← get).curve

variable [Scalar α]

def box : StateM (Memo α) (Rect α) :=
  remember (·.cells.box) (fun v memo => { memo with cells.box := some v }) (ofCurve Bezier.box)

def polygonLength : StateM (Memo α) α :=
  remember (·.cells.polygonLength) (fun v memo => { memo with cells.polygonLength := some v })
    (ofCurve Bezier.polygonLength)

def chordLength : StateM (Memo α) α :=
  remember (·.cells.chordLength) (fun v memo => { memo with cells.chordLength := some v })
    (ofCurve Bezier.chordLength)

def halves : StateM (Memo α) (Bezier α × Bezier α) :=
  remember (·.cells.halves) (fun v memo => { memo with cells.halves := some v })
    (ofCurve (Bezier.split 0.5))

def coefficients : StateM (Memo α) (List α × List α) :=
  remember (·.cells.coefficients) (fun v memo => { memo with cells.coefficients := some v })
    (ofCurve fun b => (b.xCoefficients, b.yCoefficients))

def isFlat : StateM (Memo α) Bool := do
  let chord ← chordLength
  if Scalar.isFinite chord then
    let length ← polygonLength
    return length ≤ (1.0 + flatness) * chord
  else return true

/-- The pieces of the curve over a parameter range. The halves of the curve have memories of their
own, which do not outlast the bisection. -/
def pieces : Nat → Rat → Rat → StateM (Memo α) (List (ChordPoint α))
  | 0, t₁, t₂ => ofCurve fun b => [⟨t₁, t₂, b.finish⟩]
  | depth + 1, t₁, t₂ => do
    if ← isFlat then ofCurve fun b => [⟨t₁, t₂, b.finish⟩]
    else
      let middle := t₁ + (t₂ - t₁) / 2
      let (left, right) ← halves
      return ((pieces depth t₁ middle).run { curve := left }).1 ++
        ((pieces depth middle t₂).run { curve := right }).1

def chordPoints : StateM (Memo α) (List (ChordPoint α)) :=
  remember (·.cells.chordPoints) (fun v memo => { memo with cells.chordPoints := some v }) do
    let start ← ofCurve Bezier.start
    return ⟨0, 0, start⟩ :: (← pieces maxDepth 0 1)

def isNearBox (x y tolerance : α) : StateM (Memo α) Bool :=
  return (← box).contains x y tolerance

def isNear (x y tolerance : α) : StateM (Memo α) Bool := do
  if ← isNearBox x y tolerance then
    return isNearPolyline x y tolerance ((← chordPoints).map ChordPoint.point)
  else return false

/-- The moved segment, of which nothing has been worked out. -/
def offset (memo : Memo α) (dx dy : α) : Memo α :=
  { curve := memo.curve.offset dx dy }

end Memo
end Bezier
end XdotViewer
