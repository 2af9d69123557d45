import XdotViewer.Decimal.Binary64

/-! # Scalars

Geometry is written once over a scalar type. Doubles run it; any other instance, such as an exact
field with square roots, gives the same definitions an ideal reading.
-/

namespace XdotViewer

/-- The operations that geometry needs of its coordinates. -/
class Scalar (α : Type) extends
    Add α, Sub α, Mul α, Div α, Neg α, OfScientific α, LT α, LE α, BEq α where
  decidableLT : DecidableRel (fun a b : α => a < b)
  decidableLE : DecidableRel (fun a b : α => a ≤ b)
  abs : α → α
  sqrt : α → α
  /-- The greatest whole value that is not above the argument. -/
  floor : α → α
  /-- The nearest whole value, a half going away from zero. -/
  round : α → α
  /-- The argument without its fraction, as far as the range of integers of the type goes. -/
  toInt : α → Int
  isFinite : α → Bool
  ofRat : Rat → α

namespace Scalar

instance {α : Type} [Scalar α] : DecidableLT α := decidableLT
instance {α : Type} [Scalar α] : DecidableLE α := decidableLE

variable {α : Type} [Scalar α]

/-- A value that is not equal to itself stands for no number. -/
def isNaN (a : α) : Bool :=
  !(a == a)

/-- The lesser operand. An operand that is no number is passed over; of equal ones the second
stays. -/
def min (a b : α) : α :=
  if isNaN b then a else if a < b then a else b

/-- The greater operand, in the same manner. -/
def max (a b : α) : α :=
  if isNaN b then a else if b < a then a else b

/-- Holds a value inside an interval. -/
def clamp (low high a : α) : α :=
  if a < low then low else if high < a then high else a

/-- Adds from the left, starting with the neutral element of addition. -/
def sum (values : List α) : α :=
  values.foldl (· + ·) (-0.0)

end Scalar

/-- A rational as a double: both parts are converted and divided. -/
def floatOfRat (value : Rat) : Float :=
  floatOfSigned (decide (value.num < 0)) value.num.natAbs / Float.ofNat value.den

instance : Scalar Float where
  decidableLT := fun a b => Float.decLt a b
  decidableLE := fun a b => Float.decLe a b
  abs := Float.abs
  sqrt := Float.sqrt
  floor := floorWhole
  round := roundHalfAway
  toInt := toInt64Range
  isFinite := Float.isFinite
  ofRat := floatOfRat

end XdotViewer
