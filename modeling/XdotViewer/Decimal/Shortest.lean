import XdotViewer.Decimal.Binary64

/-! # The fewest digits that read back

A decimal reads back as a double when it lies among the reals that round to it. Of the shortest
such decimals the one nearest to the double is chosen, all by exact arithmetic on naturals.
-/

namespace XdotViewer

/-- The non-negative decimal `digits * 10 ^ exponent`. -/
structure Decimal where
  digits : Nat
  exponent : Int
deriving DecidableEq, Repr

namespace Decimal

/-- Compares `a * 10 ^ i` with `b * 2 ^ j` exactly. -/
def compareScaled (a : Nat) (i : Int) (b : Nat) (j : Int) : Ordering :=
  compare ((a * Nat.pow 10 i.toNat) <<< (-j).toNat) ((b * Nat.pow 10 (-i).toNat) <<< j.toNat)

/-- Whether the gap below `mantissa * 2 ^ exponent` is half the gap above it. -/
def narrowBelow (mantissa : Nat) (exponent : Int) : Bool :=
  mantissa == 0x10000000000000 && -1074 < exponent

/-- Whether the decimal lies among the reals that round to `mantissa * 2 ^ exponent`: between the
midpoints to both neighbours, which belong to it when the mantissa is even. -/
def readsBack (mantissa : Nat) (exponent : Int) (candidate : Decimal) : Bool :=
  let low := if narrowBelow mantissa exponent then 4 * mantissa - 1 else 4 * mantissa - 2
  let fromLow := compareScaled candidate.digits candidate.exponent low (exponent - 2)
  let high := 4 * mantissa + 2
  let fromHigh := compareScaled candidate.digits candidate.exponent high (exponent - 2)
  if mantissa % 2 = 0 then fromLow != .lt && fromHigh != .gt else fromLow == .gt && fromHigh == .lt

/-- The least `k` at or above the estimate with `mantissa * 2 ^ exponent < 10 ^ k`. -/
def scaleFrom (mantissa : Nat) (exponent : Int) : Nat → Int → Int
  | 0, k => k
  | steps + 1, k =>
    if compareScaled 1 k mantissa exponent == .gt then k
    else scaleFrom mantissa exponent steps (k + 1)

/-- The number of digits before the point, zero or negative for small values. -/
def scale (mantissa : Nat) (exponent : Int) : Int :=
  -- 1233 / 4096 is just below the decimal logarithm of two.
  let estimate := ((mantissa.log2 : Int) + exponent) * 1233 / 4096
  scaleFrom mantissa exponent 4 (estimate - 1)

/-- The whole number of units `10 ^ grid` that fit into `mantissa * 2 ^ exponent`. -/
def unitsBelow (mantissa : Nat) (exponent grid : Int) : Nat :=
  (mantissa * Nat.pow 10 (-grid).toNat) <<< exponent.toNat /
    Nat.pow 10 grid.toNat <<< (-exponent).toNat

/-- Which of two candidates is taken when the value is just between them. -/
inductive Tie where
  | up
  /-- The one whose last digit is even. -/
  | even
deriving DecidableEq, Repr

/-- Whether the lesser of two candidates is nearer to the value, or is taken in a tie. -/
def takesLower (tie : Tie) (mantissa : Nat) (exponent grid : Int) (below : Nat) : Bool :=
  -- Twice the value against the sum of the two candidates.
  match compareScaled (2 * below + 1) grid mantissa (exponent + 1) with
  | .gt => true
  | .lt => false
  | .eq => tie = .even && below % 2 = 0

/-- The better of the two neighbours on the grid `10 ^ grid` that read back. -/
def onGrid? (tie : Tie) (mantissa : Nat) (exponent grid : Int) : Option Decimal :=
  let below := unitsBelow mantissa exponent grid
  let lower : Decimal := ⟨below, grid⟩
  let upper : Decimal := ⟨below + 1, grid⟩
  match readsBack mantissa exponent lower, readsBack mantissa exponent upper with
  | true, true =>
    if takesLower tie mantissa exponent grid below then some lower else some upper
  | true, false => some lower
  | false, true => some upper
  | false, false => none

/-- Moves trailing zeros of the digits into the exponent. -/
def stripZeros : Nat → Decimal → Decimal
  | 0, value => value
  | steps + 1, value =>
    if value.digits ≠ 0 ∧ value.digits % 10 = 0 then
      stripZeros steps ⟨value.digits / 10, value.exponent + 1⟩
    else value

/-- The exact decimal expansion, for a value that no tried grid gives back. -/
def exact (mantissa : Nat) (exponent : Int) : Decimal :=
  ⟨(mantissa * Nat.pow 5 (-exponent).toNat) <<< exponent.toNat, min exponent 0⟩

/-- The shortest decimal that reads back as `mantissa * 2 ^ exponent`, nearest first. -/
def shortest (tie : Tie) (mantissa : Nat) (exponent : Int) : Decimal :=
  if mantissa = 0 then ⟨0, 0⟩
  else
    let top := scale mantissa exponent
    let found := (List.range 17).findSome? fun (n : Nat) =>
      onGrid? tie mantissa exponent (top - ((n : Int) + 1))
    stripZeros 20 (found.getD (exact mantissa exponent))

end Decimal
end XdotViewer
