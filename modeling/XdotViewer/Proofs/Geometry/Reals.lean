import Mathlib.Analysis.Real.Sqrt
import Mathlib.Tactic
import XdotViewer.Geometry.Path

/-! # Geometry in exact arithmetic

The real numbers are scalars without rounding. All of them are finite, and a whole one of any size
is an integer. Geometry over them is what geometry over doubles stands for. Here are its basic
operations in terms of the real ones.
-/

namespace XdotViewer

noncomputable instance : Scalar ℝ where
  beq a b := decide (a = b)
  decidableLT := fun _ _ => Classical.propDecidable _
  decidableLE := fun _ _ => Classical.propDecidable _
  abs a := |a|
  sqrt := Real.sqrt
  floor a := ⌊a⌋
  round a := if 0 ≤ a then ⌊a + 1 / 2⌋ else -⌊-a + 1 / 2⌋
  toInt a := if 0 ≤ a then ⌊a⌋ else ⌈a⌉
  isFinite _ := true
  ofRat q := q

@[simp] theorem Scalar.beq_real (a b : ℝ) : (a == b) = decide (a = b) := rfl

@[simp] theorem Scalar.isFinite_real (a : ℝ) : Scalar.isFinite a = true := rfl

@[simp] theorem Scalar.ofRat_real (q : ℚ) : Scalar.ofRat q = (q : ℝ) := rfl

@[simp] theorem Scalar.zero_real : (0.0 : ℝ) = 0 := by norm_num

@[simp] theorem Scalar.one_real : (1.0 : ℝ) = 1 := by norm_num

namespace Point

/-- The distance of two points, by Pythagoras. -/
theorem distance_eq (p q : Point ℝ) :
    p.distance q = √((p.x - q.x) * (p.x - q.x) + (p.y - q.y) * (p.y - q.y)) :=
  rfl

theorem distance_nonneg (p q : Point ℝ) : 0 ≤ p.distance q :=
  Real.sqrt_nonneg _

theorem distance_comm (p q : Point ℝ) : p.distance q = q.distance p := by
  rw [distance_eq, distance_eq]
  congr 1
  ring

/-- The distance of two points on one level. -/
theorem distance_level (a b y : ℝ) : distance ⟨a, y⟩ ⟨b, y⟩ = |a - b| := by
  rw [distance_eq, sub_self, mul_zero, add_zero, Real.sqrt_mul_self_eq_abs]

/-- Halving is a division at one half like any other. -/
theorem between_eq (t : ℝ) (p q : Point ℝ) :
    between t p q = ⟨p.x * (1 - t) + q.x * t, p.y * (1 - t) + q.y * t⟩ := by
  unfold between
  by_cases half : t = 0.5
  · rw [if_pos (by simpa using half), half, mk.injEq]
    norm_num
    constructor <;> ring
  · rw [if_neg (by simpa using half), mk.injEq]
    norm_num

end Point
end XdotViewer
