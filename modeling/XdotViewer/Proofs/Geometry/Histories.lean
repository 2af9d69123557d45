import XdotViewer.Proofs.Geometry.Recalling

/-! # Histories of a path

A path is asked, moved and added to in any order. As long as its segments are not built, a move
changes the parameters of the shape, and the segments are built from these later; once they are
built they are moved themselves. In exact arithmetic both come to the same, and so a path with a
memory answers like one that has had nothing but its segments from the start.
-/

namespace XdotViewer

namespace Bezier

/-- What a segment can be asked. -/
inductive Read (α : Type) where
  | box
  | lengths
  | chordPoints
  | coefficients
  | isNearBox (x y tolerance : α)
  | isNear (x y tolerance : α)

inductive Answer (α : Type) where
  | box (box : Rect α)
  | lengths (polygon chord : α)
  | chordPoints (points : List (ChordPoint α))
  | coefficients (x y : List α)
  | near (near : Bool)

variable {α : Type} [Scalar α]

namespace Read

/-- What follows from the curve. -/
def answer (b : Bezier α) : Read α → Answer α
  | box => .box b.box
  | lengths => .lengths b.polygonLength b.chordLength
  | chordPoints => .chordPoints b.chordPoints
  | coefficients => .coefficients b.xCoefficients b.yCoefficients
  | isNearBox x y tolerance => .near (b.isNearBox x y tolerance)
  | isNear x y tolerance => .near (b.isNear x y tolerance)

/-- What a segment with a memory answers. -/
def ask : Read α → StateM (Memo α) (Answer α)
  | box => return .box (← Memo.box)
  | lengths => return .lengths (← Memo.polygonLength) (← Memo.chordLength)
  | chordPoints => return .chordPoints (← Memo.chordPoints)
  | coefficients => return let (x, y) := ← Memo.coefficients; .coefficients x y
  | isNearBox x y tolerance => return .near (← Memo.isNearBox x y tolerance)
  | isNear x y tolerance => return .near (← Memo.isNear x y tolerance)

theorem answers_ask (read : Read α) : Answers Memo.Holds read.ask read.answer := by
  cases read with
  | box => exact Memo.answers_box.map Answer.box
  | lengths =>
    exact Memo.answers_polygonLength.bind fun polygon =>
      Memo.answers_chordLength.map fun chord => Answer.lengths polygon chord
  | chordPoints => exact Memo.answers_chordPoints.map Answer.chordPoints
  | coefficients =>
    exact Memo.answers_coefficients.map fun both : List α × List α =>
      Answer.coefficients both.1 both.2
  | isNearBox x y tolerance => exact (Memo.answers_isNearBox x y tolerance).map Answer.near
  | isNear x y tolerance => exact (Memo.answers_isNear x y tolerance).map Answer.near

end Read

/-- The segment after it has been asked some things. -/
def Memo.asked (memo : Memo α) : List (Read α) → Memo α
  | [] => memo
  | read :: rest => asked (read.ask.run memo).2 rest

private theorem Memo.Holds.asked {memo : Memo α} {b : Bezier α} (held : memo.Holds b)
    (reads : List (Read α)) : (memo.asked reads).Holds b := by
  induction reads generalizing memo with
  | nil => exact held
  | cons read rest ih => exact ih (read.answers_ask memo b held).2

end Bezier

private theorem closedLines_map {α : Type} (f : Point α → Point α) (first : Point α)
    (points : List (Point α)) :
    closedLines (f first) (points.map f) = (closedLines first points).map (Bezier.map f) := by
  induction points using closedLines.induct with
  | case1 => rfl
  | case2 p => rfl
  | case3 p q rest ih => exact congrArg (Bezier.line (f p) (f q) :: ·) ih

private theorem polygonSegments_map {α : Type} (f : Point α → Point α) (points : List (Point α)) :
    polygonSegments (points.map f) = (polygonSegments points).map (Bezier.map f) := by
  cases points with
  | nil => rfl
  | cons p rest => exact closedLines_map f p (p :: rest)

section Exact

variable (dx dy : ℝ)

private theorem Rect.corners_offset (r : Rect ℝ) :
    (r.offset dx dy).corners = r.corners.map fun p => p.offset dx dy := by
  simp only [Rect.corners, Rect.offset, Rect.width, Rect.height, Point.offset, List.map_cons,
    List.map_nil, List.cons.injEq, Point.mk.injEq]
  ring_nf
  simp

private theorem Ellipse.segments_offset (e : Ellipse ℝ) :
    ({ e with cx := e.cx + dx, cy := e.cy + dy } : Ellipse ℝ).segments =
      e.segments.map fun b => b.offset dx dy := by
  simp only [Ellipse.segments, Bezier.offset, Bezier.map, Point.offset, List.map_cons, List.map_nil,
    List.cons.injEq, Bezier.cubic.injEq, Point.mk.injEq]
  ring_nf
  simp

/-- The segments of a moved shape are the moved segments of the shape. -/
theorem Shape.toSegments_offset (shape : Shape ℝ) :
    (shape.offset dx dy).toSegments = shape.toSegments.map fun b => b.offset dx dy := by
  cases shape with
  | segments list => rfl
  | polygon points => exact polygonSegments_map _ points
  | rect r =>
    rw [offset, toSegments, Rect.corners_offset]
    exact polygonSegments_map _ r.corners
  | ellipse e => exact e.segments_offset dx dy

end Exact

namespace Path

/-- What a path can be asked. A place at which there is no segment has no answer. -/
inductive Read (α : Type) where
  | segments
  | box
  | isNearBox (x y tolerance : α)
  | isNear (x y tolerance : α)
  | outline
  | segment (i : ℕ) (read : Bezier.Read α)

inductive Answer (α : Type) where
  | segments (curves : List (Bezier α))
  | box (box : Option (Rect α))
  | near (near : Bool)
  | outline (outline : Outline α)
  | segment (answer : Option (Bezier.Answer α))

/-- What is done with a path. A segment may have been asked some things before it is added. -/
inductive Action (α : Type) where
  | read (read : Read α)
  | offset (dx dy : α)
  | add (b : Bezier α) (asked : List (Bezier.Read α))

variable {α : Type} [Scalar α]

namespace Read

/-- What follows from the path. -/
def answer (path : Path α) : Read α → Answer α
  | segments => .segments path.segments
  | box => .box path.box?
  | isNearBox x y tolerance => .near (path.isNearBox x y tolerance)
  | isNear x y tolerance => .near (path.isNear x y tolerance)
  | outline => .outline path.outline
  | segment i read => .segment (path.segments[i]?.map read.answer)

/-- What a path with a memory answers. -/
def ask : Read α → StateM (Memo α) (Answer α)
  | segments => return .segments (← Memo.ofSegments Path.segments)
  | box => return .box (← Memo.box?)
  | isNearBox x y tolerance => return .near (← Memo.isNearBox x y tolerance)
  | isNear x y tolerance => return .near (← Memo.isNear x y tolerance)
  | outline => return .outline (← Memo.ofSegments Path.outline)
  | segment i read => return .segment (← Memo.ofSegment i read.ask)

theorem answers_ask (read : Read α) : Answers Memo.Holds read.ask read.answer := by
  cases read with
  | segments => exact (Memo.answers_ofSegments id).map Answer.segments
  | box => exact Memo.answers_box?.map Answer.box
  | isNearBox x y tolerance => exact (Memo.answers_isNearBox x y tolerance).map Answer.near
  | isNear x y tolerance => exact (Memo.answers_isNear x y tolerance).map Answer.near
  | outline =>
    have outline : Answers (Memo.Holds (α := α)) (Memo.ofSegments Path.outline) Path.outline :=
      Memo.answers_ofSegments fun {p q} same => by rw [Path.outline, Path.outline, same]
    exact outline.map Answer.outline
  | segment i read => exact (Memo.answers_ofSegment i read.answers_ask).map Answer.segment

end Read

/-- The answers of a path without a memory. -/
def answers (path : Path α) : List (Action α) → List (Answer α)
  | [] => []
  | .read read :: rest => read.answer path :: path.answers rest
  | .offset dx dy :: rest => (path.offset dx dy).answers rest
  | .add b _ :: rest => (path.add b).answers rest

namespace Memo

/-- The answers of a path with a memory. -/
def answers (memo : Memo α) : List (Action α) → List (Answer α)
  | [] => []
  | .read read :: rest =>
    let (answer, memo) := read.ask.run memo
    answer :: memo.answers rest
  | .offset dx dy :: rest => (memo.offset dx dy).answers rest
  | .add b asked :: rest => (memo.add (Bezier.Memo.asked { curve := b } asked)).answers rest

private theorem holds_ofShape (shape : Shape α) :
    (ofShape shape).Holds (.ofShape (.segments shape.toSegments)) := by
  constructor
  · cases shape <;> exact holds_map_new _
  · cases shape <;> simp [ofShape]

private theorem Holds.add {memo : Memo α} {path : Path α} (held : memo.Holds path) {b : Bezier α}
    {segment : Bezier.Memo α} (holds : segment.Holds b) :
    (memo.add segment).Holds (path.add b) where
  segments := List.rel_append held.segments (.cons holds .nil)
  box := by simp [Memo.add]

end Memo

section Exact

variable (dx dy : ℝ)

/-- A path that is moved has its segments moved. -/
theorem segments_offset (path : Path ℝ) :
    (path.offset dx dy).segments = path.segments.map fun b => b.offset dx dy := by
  obtain ⟨shape, built⟩ := path
  cases implied : shape.isSegments with
  | true => cases shape with
    | segments list => rfl
    | _ => cases implied
  | false =>
    rw [Path.offset, segments_of_implied implied,
      segments_of_implied ((isSegments_offset shape dx dy).trans implied)]
    cases built with
    | none => exact shape.toSegments_offset dx dy
    | some list => rfl

private theorem Source.toSegments_offset (source : Source ℝ) :
    (source.offset dx dy).toSegments = source.toSegments.map fun memo => memo.offset dx dy := by
  cases source with
  | own list => rfl
  | derived shape implied built =>
    cases built with
    | none =>
      simp only [offset, Option.map_none, toSegments, Shape.toSegments_offset, List.map_map]
      rfl
    | some list => rfl

private theorem Memo.Holds.offset {memo : Memo ℝ} {path : Path ℝ} (held : memo.Holds path) :
    (memo.offset dx dy).Holds (path.offset dx dy) where
  segments := by
    rw [Memo.offset, Source.toSegments_offset, segments_offset, List.forall₂_map_left_iff,
      List.forall₂_map_right_iff]
    exact held.segments.imp fun _ _ holds => holds.offset dx dy
  box := by simp [Memo.offset]

end Exact

/-- A memory of a path answers as the path does, whatever is done with both. The induction is on
what is left to do, over all memories of all paths. -/
theorem Memo.answers_of_holds {memo : Memo ℝ} {path : Path ℝ} (held : memo.Holds path)
    (actions : List (Action ℝ)) : memo.answers actions = path.answers actions := by
  induction actions generalizing memo path with
  | nil => rfl
  | cons action rest ih =>
    cases action with
    | read read =>
      obtain ⟨answer, kept⟩ := read.answers_ask memo path held
      exact congrArg₂ List.cons answer (ih kept)
    | offset dx dy => exact ih (held.offset dx dy)
    | add b asked => exact ih (held.add ((Bezier.Memo.holds_new b).asked asked))

/-- Whatever is done with a path of any shape, it answers as a path does that has had nothing but
the segments of the shape from the start. -/
theorem Memo.answers_ofShape (shape : Shape ℝ) (actions : List (Action ℝ)) :
    (ofShape shape).answers actions =
      (Path.ofShape (.segments shape.toSegments)).answers actions :=
  answers_of_holds (holds_ofShape shape) actions

end Path
end XdotViewer
