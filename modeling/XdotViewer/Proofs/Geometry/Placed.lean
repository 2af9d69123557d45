import XdotViewer.Proofs.Geometry.Polyline

/-! # Positions on a path

A position on a path is the drawn length before it. The segments of the path lie one after another,
each from the position where the one before it ends.
-/

namespace XdotViewer

/-- A segment, and the drawn length of the path before it. -/
structure Placed where
  offset : ℝ
  segment : Bezier ℝ

namespace Placed

/-- The position of a parameter of the segment. -/
noncomputable def position (place : Placed) (t : ℝ) : ℝ :=
  place.offset + place.segment.reach t

/-- The position where the segment ends. -/
noncomputable def finish (place : Placed) : ℝ :=
  place.offset + place.segment.drawnLength

variable (place : Placed)

theorem offset_le_finish : place.offset ≤ place.finish :=
  le_add_of_nonneg_right place.segment.drawnLength_nonneg

@[simp] theorem position_zero : place.position 0 = place.offset := by
  simp [position]

@[simp] theorem position_one : place.position 1 = place.finish := by
  simp [position, finish]

/-- A way along the segment leads to the position behind it. -/
theorem position_parameterAt {way : ℝ} (positive : 0 < way)
    (inside : way ≤ place.segment.drawnLength) :
    place.position (place.segment.parameterAt way) = place.offset + way := by
  rw [position, Bezier.reach_parameterAt positive inside]

end Placed

/-- The drawn length of some segments. -/
noncomputable def totalLength (segments : List (Bezier ℝ)) : ℝ :=
  (segments.map Bezier.drawnLength).sum

/-- The length of segments is not negative. -/
theorem totalLength_nonneg (segments : List (Bezier ℝ)) : 0 ≤ totalLength segments :=
  List.sum_nonneg (by simpa using fun b _ => b.drawnLength_nonneg)

/-- The segments behind a position, in their places. -/
noncomputable def placedFrom (offset : ℝ) : List (Bezier ℝ) → List Placed
  | [] => []
  | b :: rest => ⟨offset, b⟩ :: placedFrom (Placed.finish ⟨offset, b⟩) rest

variable {offset : ℝ} {segments : List (Bezier ℝ)} {place : Placed}

theorem add_totalLength_cons (offset : ℝ) (b : Bezier ℝ) (rest : List (Bezier ℝ)) :
    offset + totalLength (b :: rest) = Placed.finish ⟨offset, b⟩ + totalLength rest := by
  rw [totalLength, List.map_cons, List.sum_cons, ← add_assoc]
  rfl

private theorem offset_le_of_mem_placedFrom (member : place ∈ placedFrom offset segments) :
    offset ≤ place.offset := by
  induction segments generalizing offset with
  | nil => cases member
  | cons b rest ih =>
    rcases List.mem_cons.mp member with rfl | later
    · exact le_rfl
    · exact (Placed.offset_le_finish _).trans (ih later)

namespace Path

/-- The segments of the path in their places. -/
noncomputable def placed (path : Path ℝ) : List Placed :=
  placedFrom 0 path.segments

/-- The drawn length of the whole path. -/
noncomputable def drawnLength (path : Path ℝ) : ℝ :=
  totalLength path.segments

/-- No segment is placed before the start of its path. -/
theorem offset_nonneg {path : Path ℝ} (member : place ∈ path.placed) : 0 ≤ place.offset :=
  offset_le_of_mem_placedFrom member

/-- Each segment begins where the one before it ends. -/
def IsChained (path : Path ℝ) : Prop :=
  path.segments.IsChain fun b c => b.finish = c.start

/-- Two level lines in a row. -/
def twoLines (middle finish : ℝ) : Path ℝ :=
  ofShape (.segments [.line ⟨0, 0⟩ ⟨middle, 0⟩, .line ⟨middle, 0⟩ ⟨finish, 0⟩])

/-- The second of two lines is placed behind the first. -/
theorem placed_twoLines {middle finish : ℝ} (nonneg : 0 ≤ middle) :
    (twoLines middle finish).placed =
      [⟨0, .line ⟨0, 0⟩ ⟨middle, 0⟩⟩, ⟨middle, .line ⟨middle, 0⟩ ⟨finish, 0⟩⟩] := by
  have length : Placed.finish ⟨0, .line ⟨0, 0⟩ ⟨middle, 0⟩⟩ = middle := by
    rw [Placed.finish, Bezier.drawnLength_line, Point.distance_level, zero_add, zero_sub, abs_neg,
      abs_of_nonneg nonneg]
  change placedFrom 0 [_, _] = _
  rw [placedFrom, placedFrom, placedFrom, length]

end Path
end XdotViewer
