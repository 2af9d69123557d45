import XdotViewer.Proofs.Geometry.Bisecting
import XdotViewer.Proofs.Geometry.Ordered

/-! # Boxes around curves

All real numbers lie in one order. A rectangle that covers two points covers what lies between them,
so the box of a curve holds the boxes of all the parts into which the curve is bisected, and the
whole polygon that stands for it. The box of a path holds the boxes of its segments.
-/

namespace XdotViewer

@[simp] theorem Scalar.isNaN_real (a : ℝ) : Scalar.isNaN a = false := by
  simp [Scalar.isNaN]

@[simp] theorem Scalar.min_real (a b : ℝ) : Scalar.min a b = a ⊓ b := by
  rw [Scalar.min, isNaN_real, if_neg Bool.false_ne_true]
  split
  case isTrue less => exact (min_eq_left less.le).symm
  case isFalse more => exact (min_eq_right (not_lt.mp more)).symm

@[simp] theorem Scalar.max_real (a b : ℝ) : Scalar.max a b = a ⊔ b := by
  rw [Scalar.max, isNaN_real, if_neg Bool.false_ne_true]
  split
  case isTrue less => exact (max_eq_left less.le).symm
  case isFalse more => exact (max_eq_right (not_lt.mp more)).symm

instance : Scalar.Ordered ℝ where
  le_refl _ := le_refl (α := ℝ) _
  le_trans := le_trans (α := ℝ)
  le_of_lt := le_of_lt (α := ℝ)
  lt_or_le _ _ := lt_or_ge (α := ℝ) _ _
  beq_of_le there back := decide_eq_true (le_antisymm (α := ℝ) there back)

theorem Point.isNumber_real (p : Point ℝ) : p.IsNumber :=
  ⟨Scalar.isNaN_real _, Scalar.isNaN_real _⟩

namespace Rect

variable {r s outer : Rect ℝ} {p q : Point ℝ} {x y tolerance : ℝ}

theorem Within.refl (r : Rect ℝ) : r.Within r :=
  ⟨le_refl (α := ℝ) _, le_refl (α := ℝ) _, le_refl (α := ℝ) _, le_refl (α := ℝ) _⟩

/-- A rectangle that covers two points covers the line between them. -/
theorem Covers.between {t : ℝ} (first : r.Covers p) (second : r.Covers q) (nonneg : 0 ≤ t)
    (before : t ≤ 1) : r.Covers (Point.between t p q) := by
  have rest : 0 ≤ 1 - t := sub_nonneg.mpr before
  obtain ⟨left, top, right, bottom⟩ := first
  obtain ⟨left', top', right', bottom'⟩ := second
  rw [Point.between_eq]
  constructor <;> simp only [atPoint] at * <;> nlinarith

/-- A point is contained if it lies within the rectangle grown by a positive tolerance. -/
theorem contains_iff : r.contains x y tolerance = true ↔
    (r.left - max tolerance 0 ≤ x ∧ x ≤ r.right + max tolerance 0) ∧
      r.top - max tolerance 0 ≤ y ∧ y ≤ r.bottom + max tolerance 0 := by
  simp [contains, and_assoc]

/-- What a rectangle contains, a rectangle around it contains. -/
theorem contains_of_within (inside : r.Within outer) (hit : r.contains x y tolerance = true) :
    outer.contains x y tolerance = true := by
  obtain ⟨left, top, right, bottom⟩ := inside
  rw [contains_iff] at hit ⊢
  obtain ⟨⟨after, before⟩, below, above⟩ := hit
  refine ⟨⟨?_, ?_⟩, ?_, ?_⟩ <;> linarith

end Rect

namespace Bezier

variable {b part : Bezier ℝ} {outer : Rect ℝ}

private theorem around_points (b : Bezier ℝ) : Rect.around b.points = some b.box := by
  cases b <;> rfl

/-- The box of a curve lies within a rectangle exactly if that covers the control points. -/
theorem box_within_iff : b.box.Within outer ↔ ∀ p ∈ b.points, outer.Covers p :=
  Rect.around_within_iff b.around_points fun p _ => p.isNumber_real

/-- The box of a curve covers its control points. -/
theorem covers_of_mem_points {p : Point ℝ} (member : p ∈ b.points) : b.box.Covers p :=
  box_within_iff.mp (.refl _) p member

/-- The construction that divides a curve stays between its control points. -/
theorem box_split_within {t : ℝ} (nonneg : 0 ≤ t) (before : t ≤ 1) :
    (b.split t).1.box.Within b.box ∧ (b.split t).2.box.Within b.box := by
  have covers := box_within_iff.mp (.refl b.box)
  have between : ∀ {p q}, b.box.Covers p → b.box.Covers q → b.box.Covers (Point.between t p q) :=
    fun first second => first.between second nonneg before
  rw [box_within_iff, box_within_iff]
  cases b with
  | dot p => exact ⟨covers, covers⟩
  | line p q =>
    simp only [points, List.forall_mem_cons] at covers
    obtain ⟨hp, hq, -⟩ := covers
    simp [split, points, hp, hq, between]
  | quadratic p c q =>
    simp only [points, List.forall_mem_cons] at covers
    obtain ⟨hp, hc, hq, -⟩ := covers
    simp [split, points, hp, hc, hq, between]
  | cubic p c₁ c₂ q =>
    simp only [points, List.forall_mem_cons] at covers
    obtain ⟨hp, hc₁, hc₂, hq, -⟩ := covers
    simp [split, points, hp, hc₁, hc₂, hq, between]

private theorem box_parts_within {times : ℕ} (member : part ∈ b.parts times) :
    part.box.Within b.box := by
  induction times generalizing b with
  | zero =>
    obtain rfl := List.mem_singleton.mp member
    exact .refl _
  | succ times ih =>
    obtain ⟨first, second⟩ := b.box_split_within (t := 0.5) (by norm_num) (by norm_num)
    rcases List.mem_append.mp member with early | late
    · exact (ih early).trans first
    · exact (ih late).trans second

/-- The box of a curve holds the polygon that stands for it. -/
theorem covers_of_mem_chordPoints {piece : ChordPoint ℝ} (member : piece ∈ b.chordPoints) :
    b.box.Covers piece.point := by
  rcases List.mem_cons.mp member with rfl | later
  · exact covers_of_mem_points (List.mem_of_head? b.head?_points)
  · obtain ⟨_, _, _, _, part, found, _, _, point, _⟩ := b.flattens_chordPoints.parts piece later
    rw [point]
    exact (covers_of_mem_points (List.mem_of_getLast? part.getLast?_points)).trans
      (box_parts_within (List.mem_of_getElem? found))

end Bezier

/-- A path that has segments has a box, which holds the boxes of all of them. -/
theorem Path.exists_box_of_mem (path : Path ℝ) {b : Bezier ℝ} (member : b ∈ path.segments) :
    ∃ box, path.box? = some box ∧ b.box.Within box := by
  have among : ∀ p ∈ b.points, p ∈ path.segments.flatMap Bezier.points :=
    fun p point => List.mem_flatMap_of_mem member point
  rw [box?]
  cases made : Rect.around (path.segments.flatMap Bezier.points) with
  | none =>
    have first := among b.start (List.mem_of_head? b.head?_points)
    cases points : path.segments.flatMap Bezier.points with
    | nil => simp [points] at first
    | cons p rest => simp [points, Rect.around] at made
  | some box =>
    have covers := (Rect.around_within_iff made fun p _ => p.isNumber_real).mp (.refl box)
    exact ⟨box, rfl, Bezier.box_within_iff.mpr fun p point => covers p (among p point)⟩

end XdotViewer
