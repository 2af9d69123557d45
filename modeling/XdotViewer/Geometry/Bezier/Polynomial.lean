import XdotViewer.Geometry.Bezier

/-! # Segments as polynomials

The coordinates of a segment are polynomials in the parameter. Their coefficients come from
interpolating between neighbouring control values until one polynomial is left.
-/

namespace XdotViewer

namespace Polynomial

variable {α : Type} [Scalar α]

/-- The coefficients of `a + (b - a) * t`, for two polynomials of one degree. -/
def interpolate : List α → List α → List α
  | a₀ :: a, b =>
    a₀ :: List.zipWith (fun next (bᵢ, aᵢ) => next + bᵢ - aᵢ) (a ++ [0.0]) (b.zip (a₀ :: a))
  | [], _ => []

/-- Interpolates between neighbours, once. -/
def narrow (polynomials : List (List α)) : List (List α) :=
  List.zipWith interpolate polynomials polynomials.tail

/-- Interpolates between neighbours as often as there are steps. -/
def collapse : Nat → List (List α) → List (List α)
  | 0, polynomials => polynomials
  | steps + 1, polynomials => collapse steps (narrow polynomials)

/-- The coefficients for some control values, lowest power first. -/
def coefficients (values : List α) : List α :=
  (collapse (values.length - 1) (values.map fun v => [v])).headD []

/-- The value at `t`, from the highest power down. -/
def eval (t : α) : List α → α
  | [] => 0.0
  | [c] => c
  | c :: rest => eval t rest * t + c

end Polynomial

namespace Bezier

variable {α : Type} [Scalar α]

def xCoefficients (b : Bezier α) : List α :=
  Polynomial.coefficients (b.points.map Point.x)

def yCoefficients (b : Bezier α) : List α :=
  Polynomial.coefficients (b.points.map Point.y)

/-- The point at the parameter `t`. -/
def pointAt (b : Bezier α) (t : α) : Point α :=
  ⟨Polynomial.eval t b.xCoefficients, Polynomial.eval t b.yCoefficients⟩

end Bezier
end XdotViewer
