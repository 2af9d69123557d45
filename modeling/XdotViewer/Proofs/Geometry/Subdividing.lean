import XdotViewer.Proofs.Geometry.Reals

/-! # Points of a subdivided curve

The polynomials of a curve give what De Casteljau's construction gives: dividing again and again
between neighbours. So the parts of a divided curve run through the same points, each over its part
of the parameter range.
-/

namespace XdotViewer

namespace Polynomial

variable (t a b c d : ℝ)

private theorem eval_coefficients_two : eval t (coefficients [a, b]) = a * (1 - t) + b * t := by
  simp [coefficients, collapse, narrow, interpolate, eval]
  ring

private theorem eval_coefficients_three : eval t (coefficients [a, b, c]) =
    (a * (1 - t) + b * t) * (1 - t) + (b * (1 - t) + c * t) * t := by
  simp [coefficients, collapse, narrow, interpolate, eval]
  ring

private theorem eval_coefficients_four : eval t (coefficients [a, b, c, d]) =
    ((a * (1 - t) + b * t) * (1 - t) + (b * (1 - t) + c * t) * t) * (1 - t) +
      ((b * (1 - t) + c * t) * (1 - t) + (c * (1 - t) + d * t) * t) * t := by
  simp [coefficients, collapse, narrow, interpolate, eval]
  ring

end Polynomial

namespace Point

variable (p q : Point ℝ)

@[simp] theorem between_zero : between 0 p q = p := by
  simp [between_eq]

@[simp] theorem between_one : between 1 p q = q := by
  simp [between_eq]

end Point

namespace Bezier

section DeCasteljau

variable (t : ℝ) (p c c₁ c₂ q : Point ℝ)

/-- A line runs evenly between its ends. -/
theorem pointAt_line : (line p q).pointAt t = Point.between t p q := by
  rw [Point.between_eq, pointAt, Point.mk.injEq]
  exact ⟨Polynomial.eval_coefficients_two _ _ _, Polynomial.eval_coefficients_two _ _ _⟩

private theorem pointAt_quadratic : (quadratic p c q).pointAt t =
    Point.between t (Point.between t p c) (Point.between t c q) := by
  rw [Point.between_eq, Point.between_eq, Point.between_eq, pointAt, Point.mk.injEq]
  exact ⟨Polynomial.eval_coefficients_three _ _ _ _, Polynomial.eval_coefficients_three _ _ _ _⟩

private theorem pointAt_cubic : (cubic p c₁ c₂ q).pointAt t =
    Point.between t (Point.between t (Point.between t p c₁) (Point.between t c₁ c₂))
      (Point.between t (Point.between t c₁ c₂) (Point.between t c₂ q)) := by
  simp only [Point.between_eq, pointAt, Point.mk.injEq]
  exact ⟨Polynomial.eval_coefficients_four _ _ _ _ _, Polynomial.eval_coefficients_four _ _ _ _ _⟩

end DeCasteljau

variable (b : Bezier ℝ) (t u : ℝ)

@[simp] theorem pointAt_zero : b.pointAt 0 = b.start := by
  cases b with
  | dot p => rfl
  | line p q => rw [pointAt_line, Point.between_zero]; rfl
  | quadratic p c q => rw [pointAt_quadratic, Point.between_zero, Point.between_zero]; rfl
  | cubic p c₁ c₂ q =>
    rw [pointAt_cubic, Point.between_zero, Point.between_zero, Point.between_zero]
    rfl

@[simp] theorem pointAt_one : b.pointAt 1 = b.finish := by
  cases b with
  | dot p => rfl
  | line p q => rw [pointAt_line, Point.between_one]; rfl
  | quadratic p c q => rw [pointAt_quadratic, Point.between_one, Point.between_one]; rfl
  | cubic p c₁ c₂ q =>
    rw [pointAt_cubic, Point.between_one, Point.between_one, Point.between_one]
    rfl

/-- The first half runs over the parameters up to the cut. -/
theorem pointAt_split_left : (b.split t).1.pointAt u = b.pointAt (t * u) := by
  cases b with
  | dot p => rfl
  | line p q =>
    simp only [split, pointAt_line, Point.between_eq, Point.mk.injEq]
    constructor <;> ring
  | quadratic p c q =>
    simp only [split, pointAt_quadratic, Point.between_eq, Point.mk.injEq]
    constructor <;> ring
  | cubic p c₁ c₂ q =>
    simp only [split, pointAt_cubic, Point.between_eq, Point.mk.injEq]
    constructor <;> ring

/-- The second half runs over the parameters behind the cut. -/
theorem pointAt_split_right : (b.split t).2.pointAt u = b.pointAt (t + (1 - t) * u) := by
  cases b with
  | dot p => rfl
  | line p q =>
    simp only [split, pointAt_line, Point.between_eq, Point.mk.injEq]
    constructor <;> ring
  | quadratic p c q =>
    simp only [split, pointAt_quadratic, Point.between_eq, Point.mk.injEq]
    constructor <;> ring
  | cubic p c₁ c₂ q =>
    simp only [split, pointAt_cubic, Point.between_eq, Point.mk.injEq]
    constructor <;> ring

/-- The part between two parameters runs from the one to the other. -/
theorem pointAt_between {t₂ : ℝ} (t₁ : ℝ) (positive : 0 < t₂) :
    (b.between t₁ t₂).pointAt u = b.pointAt (t₁ + (t₂ - t₁) * u) := by
  have behind : ¬ t₂ ≤ (0.0 : ℝ) := by
    rw [Scalar.zero_real]
    exact positive.not_ge
  rw [between, if_neg behind, pointAt_split_right, pointAt_split_left]
  congr 1
  field_simp

/-- De Casteljau's construction arrives at the point of the polynomials. -/
theorem finish_split_left : (b.split t).1.finish = b.pointAt t := by
  rw [← pointAt_one, pointAt_split_left, mul_one]

private theorem split_one_left : (b.split 1).1 = b := by
  cases b <;> simp [split]

private theorem split_zero_right : (b.split 0).2 = b := by
  cases b <;> simp [split]

/-- The part over the whole range is the curve. -/
theorem between_unit : b.between 0 1 = b := by
  have behind : ¬ (1 : ℝ) ≤ 0.0 := by norm_num
  rw [between, if_neg behind, zero_div, split_one_left, split_zero_right]

/-- The parts of a divided curve meet at the point of its polynomials, and run through the same
points as the curve, each over its part of the parameter range. -/
theorem subdivision_reparametrises (b : Bezier ℝ) :
    (∀ t, (b.split t).1.finish = b.pointAt t ∧ (b.split t).2.start = b.pointAt t ∧
      ∀ u, (b.split t).1.pointAt u = b.pointAt (t * u) ∧
        (b.split t).2.pointAt u = b.pointAt (t + (1 - t) * u)) ∧
      (∀ t₁ t₂ u, 0 < t₂ →
        (b.between t₁ t₂).pointAt u = b.pointAt (t₁ + (t₂ - t₁) * u)) ∧
      (b.between 0 1).points = b.points := by
  refine ⟨fun t => ⟨b.finish_split_left t, ?_, fun u => ?_⟩, fun t₁ t₂ u positive => ?_, ?_⟩
  · rw [← split_meets, finish_split_left]
  · exact ⟨b.pointAt_split_left t u, b.pointAt_split_right t u⟩
  · exact b.pointAt_between u t₁ positive
  · rw [between_unit]

/-- The middle half of a wave has the middle of the wave in its middle. -/
theorem subdivision_reparametrises_wave :
    let wave : Bezier ℝ := cubic ⟨0, 0⟩ ⟨30, 80⟩ ⟨70, -40⟩ ⟨100, 20⟩
    (0 : ℝ) < 3 / 4 ∧ (wave.between (1 / 4) (3 / 4)).pointAt (1 / 2) = ⟨50, 35 / 2⟩ := by
  intro wave
  have positive : (0 : ℝ) < 3 / 4 := by norm_num
  refine ⟨positive, ?_⟩
  rw [wave.subdivision_reparametrises.2.1 (1 / 4) (3 / 4) (1 / 2) positive, pointAt_cubic]
  norm_num [Point.between_eq]

end Bezier
end XdotViewer
