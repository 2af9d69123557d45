import XdotViewer.Geometry.Bezier.Subdivision

/-! # Flattening

A curve is bisected until each piece is flat: its control polygon is hardly longer than its chord.
Parameter ranges are kept as exact rationals; every bound of a range is a dyadic number.
-/

namespace XdotViewer

/-- The end of one piece of a flattened curve, with the parameters that the piece covers. -/
structure ChordPoint (α : Type) where
  tStart : Rat
  tEnd : Rat
  point : Point α

/-- The length of the covered parameter range. -/
def ChordPoint.width {α : Type} (piece : ChordPoint α) : Rat :=
  piece.tEnd - piece.tStart

namespace Bezier

variable {α : Type} [Scalar α]

/-- How much longer than its chord a flat piece may be. -/
def flatness : α := 0.001

/-- How often a curve may be bisected. -/
def maxDepth : Nat := 24

/-- A piece with an infinite or undefined chord counts as flat, so that bisection ends. -/
def isFlat (b : Bezier α) : Bool :=
  let chord := b.chordLength
  !Scalar.isFinite chord || b.polygonLength ≤ (1.0 + flatness) * chord

/-- The pieces of a curve over a parameter range, with the bisections that are left. -/
def pieces : Nat → Bezier α → Rat → Rat → List (ChordPoint α)
  | 0, b, t₁, t₂ => [⟨t₁, t₂, b.finish⟩]
  | depth + 1, b, t₁, t₂ =>
    if b.isFlat then [⟨t₁, t₂, b.finish⟩]
    else
      let middle := t₁ + (t₂ - t₁) / 2
      let (left, right) := b.split 0.5
      pieces depth left t₁ middle ++ pieces depth right middle t₂

/-- The polygon that stands for the curve: its start, then the end of each piece. -/
def chordPoints (b : Bezier α) : List (ChordPoint α) :=
  ⟨0, 0, b.start⟩ :: pieces maxDepth b 0 1

/-- The last piece ends where the curve does. -/
theorem getLast?_pieces (depth : Nat) (b : Bezier α) (t₁ t₂ : Rat) :
    ∃ piece, (pieces depth b t₁ t₂).getLast? = some piece ∧ piece.tEnd = t₂ ∧
      piece.point = b.finish := by
  induction depth generalizing b t₁ t₂ with
  | zero => exact ⟨_, rfl, rfl, rfl⟩
  | succ depth ih =>
    simp only [pieces]
    split
    · exact ⟨_, rfl, rfl, rfl⟩
    · obtain ⟨piece, last, ends, at_end⟩ := ih (b.split 0.5).2 (t₁ + (t₂ - t₁) / 2) t₂
      refine ⟨piece, ?_, ends, at_end.trans (finish_split b _)⟩
      simp [List.getLast?_append, last]

end Bezier
end XdotViewer
