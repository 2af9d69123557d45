import XdotViewer.Geometry.Bezier

/-! # Subdivision

De Casteljau's construction divides a segment at a parameter into two segments of its kind.
-/

namespace XdotViewer.Bezier

variable {α : Type} [Scalar α]

/-- The parts before and after the parameter `t`. -/
def split (t : α) : Bezier α → Bezier α × Bezier α
  | dot p => (dot p, dot p)
  | line p q =>
    let m := Point.between t p q
    (line p m, line m q)
  | quadratic p c q =>
    let pc := Point.between t p c
    let cq := Point.between t c q
    let m := Point.between t pc cq
    (quadratic p pc m, quadratic m cq q)
  | cubic p c₁ c₂ q =>
    let a := Point.between t p c₁
    let b := Point.between t c₁ c₂
    let c := Point.between t c₂ q
    let ab := Point.between t a b
    let bc := Point.between t b c
    let m := Point.between t ab bc
    (cubic p a ab m, cubic m bc c q)

/-- The part between two parameters; before the start there is only the start. -/
def between (b : Bezier α) (t₁ t₂ : α) : Bezier α :=
  if t₂ ≤ 0.0 then b.map fun _ => b.start
  else ((b.split t₂).1.split (t₁ / t₂)).2

/-- The second half ends where the curve does. -/
@[simp] theorem finish_split (b : Bezier α) (t : α) : (b.split t).2.finish = b.finish := by
  cases b <;> rfl

/-- The two parts meet. -/
theorem split_meets (b : Bezier α) (t : α) : (b.split t).1.finish = (b.split t).2.start := by
  cases b <;> rfl

end XdotViewer.Bezier
