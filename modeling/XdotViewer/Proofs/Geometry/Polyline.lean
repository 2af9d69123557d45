import XdotViewer.Proofs.Geometry.Reals

/-! # The way along a flattened curve

The pieces of a flattened curve cover its parameter range without gaps. A parameter within a piece
lies on the chord of the piece as it lies within the range of the piece. So every parameter has a
place on the polyline, and every way along the polyline leads to a parameter.
-/

namespace XdotViewer

/-- The pieces cover a parameter range: each begins where the one before it ends. -/
inductive Tiles : ℚ → List (ChordPoint ℝ) → ℚ → Prop
  | nil (t : ℚ) : Tiles t [] t
  | cons {t finish : ℚ} (piece : ChordPoint ℝ) {rest : List (ChordPoint ℝ)} :
      piece.tStart = t → piece.tStart < piece.tEnd → Tiles piece.tEnd rest finish →
      Tiles t (piece :: rest) finish

namespace Tiles

variable {t₁ t₂ t₃ : ℚ} {first second : List (ChordPoint ℝ)}

private theorem append (left : Tiles t₁ first t₂) (right : Tiles t₂ second t₃) :
    Tiles t₁ (first ++ second) t₃ := by
  induction left with
  | nil => exact right
  | cons piece begins wide _ ih => exact .cons piece begins wide (ih right)

private theorem le (tiles : Tiles t₁ first t₂) : t₁ ≤ t₂ := by
  induction tiles with
  | nil => exact le_rfl
  | cons piece begins wide _ ih => exact begins ▸ wide.le.trans ih

end Tiles

private theorem Bezier.tiles_pieces (depth : ℕ) (b : Bezier ℝ) {t₁ t₂ : ℚ} (wide : t₁ < t₂) :
    Tiles t₁ (b.pieces depth t₁ t₂) t₂ := by
  induction depth generalizing b t₁ t₂ with
  | zero => exact .cons _ rfl wide (.nil t₂)
  | succ depth ih =>
    simp only [pieces]
    split
    · exact .cons _ rfl wide (.nil t₂)
    · exact (ih _ (by linarith)).append (ih _ (by linarith))

namespace Polyline

/-- The length of the polyline from a point along the ends of some pieces. -/
noncomputable def length (origin : Point ℝ) : List (ChordPoint ℝ) → ℝ
  | [] => 0
  | piece :: rest => piece.point.distance origin + length piece.point rest

/-- The way from the point to the place of a parameter. -/
noncomputable def reach (origin : Point ℝ) : List (ChordPoint ℝ) → ℝ → ℝ
  | [], _ => 0
  | piece :: rest, t =>
    if t ≤ piece.tEnd then (t - piece.tStart) / piece.width * piece.point.distance origin
    else piece.point.distance origin + reach piece.point rest t

/-- The parameter to which a way from the point leads. -/
noncomputable def parameterAt (origin : Point ℝ) : List (ChordPoint ℝ) → ℝ → ℝ
  | [], _ => 0
  | piece :: rest, way =>
    if way ≤ piece.point.distance origin then
      piece.tStart + way / piece.point.distance origin * piece.width
    else parameterAt piece.point rest (way - piece.point.distance origin)

variable {origin : Point ℝ} {piece : ChordPoint ℝ} {pieces : List (ChordPoint ℝ)} {t₁ t₂ : ℚ}
  {way : ℝ}

theorem length_nonneg (origin : Point ℝ) (pieces : List (ChordPoint ℝ)) :
    0 ≤ length origin pieces := by
  induction pieces generalizing origin with
  | nil => exact le_rfl
  | cons piece rest ih => exact add_nonneg (Point.distance_nonneg _ _) (ih piece.point)

private theorem width_pos (wide : piece.tStart < piece.tEnd) : (0 : ℝ) < piece.width := by
  rw [ChordPoint.width, Rat.cast_pos]
  linarith

theorem tStart_add_width (piece : ChordPoint ℝ) :
    (piece.tStart : ℝ) + piece.width = piece.tEnd := by
  rw [ChordPoint.width]
  push_cast
  ring

private theorem reach_start (tiles : Tiles t₁ pieces t₂) : reach origin pieces t₁ = 0 := by
  cases tiles with
  | nil => rfl
  | cons piece begins wide _ =>
    rw [← begins, reach, if_pos (by exact_mod_cast wide.le)]
    simp

private theorem reach_finish (tiles : Tiles t₁ pieces t₂) :
    reach origin pieces t₂ = length origin pieces := by
  induction tiles generalizing origin with
  | nil => rfl
  | @cons _ finish piece rest _ wide tiles ih =>
    cases tiles with
    | nil =>
      have share : ((piece.tEnd : ℝ) - piece.tStart) / piece.width = 1 := by
        rw [← tStart_add_width piece, add_sub_cancel_left, div_self (width_pos wide).ne']
      rw [reach, if_pos le_rfl, share, length, length]
      ring
    | cons next meets wider tiles =>
      have beyond : ¬ (finish : ℝ) ≤ piece.tEnd := by
        rw [not_le, ← meets]
        exact_mod_cast wider.trans_le tiles.le
      rw [reach, if_neg beyond, ih]
      rfl

/-- Within the first piece the parameter grows in proportion to the way. -/
theorem parameterAt_of_le (near : way ≤ piece.point.distance origin) :
    parameterAt origin (piece :: pieces) way =
      piece.tStart + way / piece.point.distance origin * piece.width :=
  if_pos near

/-- A place behind the first chord is looked for on the others. -/
theorem parameterAt_of_lt (far : piece.point.distance origin < way) :
    parameterAt origin (piece :: pieces) way =
      parameterAt piece.point pieces (way - piece.point.distance origin) :=
  if_neg far.not_ge

private theorem parameterAt_le_tEnd (wide : piece.tStart < piece.tEnd) (positive : 0 < way)
    (near : way ≤ piece.point.distance origin) :
    parameterAt origin (piece :: pieces) way ≤ piece.tEnd := by
  have share : way / piece.point.distance origin ≤ 1 :=
    div_le_one_of_le₀ near (positive.le.trans near)
  rw [parameterAt_of_le near, ← tStart_add_width piece]
  exact add_le_add_right (mul_le_of_le_one_left (width_pos wide).le share) _

private theorem tStart_lt_parameterAt (wide : piece.tStart < piece.tEnd) (positive : 0 < way)
    (near : way ≤ piece.point.distance origin) :
    piece.tStart < parameterAt origin (piece :: pieces) way := by
  rw [parameterAt_of_le near]
  have share := div_pos positive (positive.trans_le near)
  have := mul_pos share (width_pos wide)
  linarith

private theorem parameterAt_mem (tiles : Tiles t₁ pieces t₂) (positive : 0 < way)
    (inside : way ≤ length origin pieces) : t₁ < parameterAt origin pieces way ∧
      parameterAt origin pieces way ≤ t₂ := by
  induction tiles generalizing origin way with
  | nil => exact absurd (positive.trans_le inside) (lt_irrefl _)
  | @cons _ finish piece rest begins wide tiles ih =>
    have later : (piece.tEnd : ℝ) ≤ finish := by exact_mod_cast tiles.le
    subst begins
    rcases le_or_gt way (piece.point.distance origin) with near | far
    · exact ⟨tStart_lt_parameterAt wide positive near,
        (parameterAt_le_tEnd wide positive near).trans later⟩
    · have earlier : (piece.tStart : ℝ) < piece.tEnd := by exact_mod_cast wide
      rw [length] at inside
      rw [parameterAt_of_lt far]
      have short : way - piece.point.distance origin ≤ length piece.point rest := by linarith
      obtain ⟨after, before⟩ := ih (sub_pos.mpr far) short
      exact ⟨earlier.trans after, before⟩

/-- The way to the parameter of a place is the place. -/
theorem reach_parameterAt (tiles : Tiles t₁ pieces t₂) (positive : 0 < way)
    (inside : way ≤ length origin pieces) :
    reach origin pieces (parameterAt origin pieces way) = way := by
  induction tiles generalizing origin way with
  | nil => exact absurd (positive.trans_le inside) (lt_irrefl _)
  | @cons _ _ piece rest _ wide tiles ih =>
    rcases le_or_gt way (piece.point.distance origin) with near | far
    · have chord := positive.trans_le near
      have range := width_pos wide
      rw [reach, if_pos (parameterAt_le_tEnd wide positive near), parameterAt_of_le near]
      field_simp
      ring
    · rw [length] at inside
      have short : way - piece.point.distance origin ≤ length piece.point rest := by linarith
      have after := (parameterAt_mem tiles (sub_pos.mpr far) short).1
      rw [parameterAt_of_lt far, reach, if_neg after.not_ge, ih (sub_pos.mpr far) short]
      ring

/-- Before the parameter to which a way leads, the way is not yet covered. -/
theorem reach_lt_of_lt_parameterAt {t : ℝ} (tiles : Tiles t₁ pieces t₂) (positive : 0 < way)
    (inside : way ≤ length origin pieces) (before : t < parameterAt origin pieces way) :
    reach origin pieces t < way := by
  induction tiles generalizing origin way with
  | nil => exact absurd (positive.trans_le inside) (lt_irrefl _)
  | @cons _ _ piece rest _ wide tiles ih =>
    have range := width_pos wide
    have ends := tStart_add_width piece
    rcases le_or_gt way (piece.point.distance origin) with near | far
    · have chord := positive.trans_le near
      have early := before.le.trans (parameterAt_le_tEnd wide positive near)
      rw [parameterAt_of_le near, ← sub_lt_iff_lt_add', ← div_lt_iff₀ range] at before
      rw [reach, if_pos early]
      exact (lt_div_iff₀ chord).mp before
    · rw [length] at inside
      rw [parameterAt_of_lt far] at before
      rw [reach]
      split
      case isTrue early =>
        have share : (t - piece.tStart) / piece.width ≤ 1 := (div_le_one range).mpr (by linarith)
        exact (mul_le_of_le_one_left (Point.distance_nonneg _ _) share).trans_lt far
      case isFalse late =>
        have further := ih (sub_pos.mpr far) (by linarith) before
        linarith

/-- A way leads to the first parameter that lies at its end. -/
theorem isLeast_parameterAt (tiles : Tiles t₁ pieces t₂) (positive : 0 < way)
    (inside : way ≤ length origin pieces) :
    IsLeast {t | reach origin pieces t = way} (parameterAt origin pieces way) := by
  refine ⟨reach_parameterAt tiles positive inside, fun t reached => not_lt.mp fun before => ?_⟩
  exact (reach_lt_of_lt_parameterAt tiles positive inside before).ne reached

theorem parameterAt_lt {more : ℝ} (tiles : Tiles t₁ pieces t₂) (positive : 0 < way)
    (longer : way < more) (inside : more ≤ length origin pieces) :
    parameterAt origin pieces way < parameterAt origin pieces more := by
  induction tiles generalizing origin way more with
  | nil => exact absurd (positive.trans (longer.trans_le inside)) (lt_irrefl _)
  | @cons _ _ piece rest _ wide tiles ih =>
    rw [length] at inside
    rcases le_or_gt more (piece.point.distance origin) with near | far
    · have chord := (positive.trans longer).trans_le near
      rw [parameterAt_of_le near, parameterAt_of_le (longer.le.trans near)]
      have share := div_lt_div_of_pos_right longer chord
      have := mul_lt_mul_of_pos_right share (width_pos wide)
      linarith
    · have short : more - piece.point.distance origin ≤ length piece.point rest := by linarith
      have after := (parameterAt_mem tiles (sub_pos.mpr far) short).1
      rw [parameterAt_of_lt far]
      rcases le_or_gt way (piece.point.distance origin) with close | farther
      · exact (parameterAt_le_tEnd wide positive close).trans_lt after
      · rw [parameterAt_of_lt farther]
        exact ih (sub_pos.mpr farther) (by linarith) short

end Polyline

namespace Bezier

variable (b : Bezier ℝ) {way : ℝ}

/-- The length of the polyline that stands for the curve. -/
noncomputable def drawnLength : ℝ :=
  Polyline.length b.start (b.pieces maxDepth 0 1)

/-- The drawn length from the start of the curve to a parameter. -/
noncomputable def reach (t : ℝ) : ℝ :=
  Polyline.reach b.start (b.pieces maxDepth 0 1) t

/-- The parameter that is reached after a way along the curve. -/
noncomputable def parameterAt (way : ℝ) : ℝ :=
  Polyline.parameterAt b.start (b.pieces maxDepth 0 1) way

/-- The pieces of a curve cover its parameters from 0 to 1. -/
theorem tiles_unit : Tiles 0 (b.pieces maxDepth 0 1) 1 :=
  b.tiles_pieces maxDepth zero_lt_one

theorem drawnLength_nonneg : 0 ≤ b.drawnLength :=
  Polyline.length_nonneg _ _

@[simp] theorem reach_zero : b.reach 0 = 0 := by
  exact_mod_cast Polyline.reach_start b.tiles_unit

@[simp] theorem reach_one : b.reach 1 = b.drawnLength := by
  exact_mod_cast Polyline.reach_finish b.tiles_unit

variable {b}

/-- A place behind the start has a positive parameter. -/
theorem parameterAt_pos (positive : 0 < way) (inside : way ≤ b.drawnLength) :
    0 < b.parameterAt way := by
  exact_mod_cast (Polyline.parameterAt_mem b.tiles_unit positive inside).1

/-- No place on the curve has a parameter beyond the end. -/
theorem parameterAt_le_one (positive : 0 < way) (inside : way ≤ b.drawnLength) :
    b.parameterAt way ≤ 1 := by
  exact_mod_cast (Polyline.parameterAt_mem b.tiles_unit positive inside).2

/-- The parameter after a way lies at the end of this way. -/
theorem reach_parameterAt (positive : 0 < way) (inside : way ≤ b.drawnLength) :
    b.reach (b.parameterAt way) = way :=
  Polyline.reach_parameterAt b.tiles_unit positive inside

theorem parameterAt_lt {more : ℝ} (positive : 0 < way) (longer : way < more)
    (inside : more ≤ b.drawnLength) : b.parameterAt way < b.parameterAt more :=
  Polyline.parameterAt_lt b.tiles_unit positive longer inside

/-- A line is a single piece. -/
theorem pieces_line (p q : Point ℝ) : (line p q).pieces maxDepth 0 1 = [⟨0, 1, q⟩] := by
  have flat : (line p q).isFlat = true := by
    have long := Point.distance_nonneg p q
    have sum : (line p q).polygonLength = p.distance q := by
      norm_num [polygonLength, points, Scalar.sum]
    simp only [isFlat, sum, chordLength, start, finish, flatness, Scalar.isFinite_real,
      Bool.not_true, Bool.false_or, decide_eq_true_eq]
    norm_num
    linarith
  exact if_pos flat

/-- A line is as long as its ends are apart. -/
theorem drawnLength_line (p q : Point ℝ) : (line p q).drawnLength = p.distance q := by
  rw [drawnLength, pieces_line, Polyline.length, Polyline.length, add_zero, Point.distance_comm]
  rfl

/-- On a line the parameter is the share of the way. -/
theorem parameterAt_line {p q : Point ℝ} (inside : way ≤ p.distance q) :
    (line p q).parameterAt way = way / p.distance q := by
  rw [Point.distance_comm] at inside ⊢
  rw [parameterAt, pieces_line, start, Polyline.parameterAt_of_le inside]
  norm_num [ChordPoint.width]

end Bezier
end XdotViewer
