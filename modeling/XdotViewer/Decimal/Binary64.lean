/-! # Doubles taken apart

A finite double is a sign, a natural mantissa and a power of two. Rounding to whole numbers and
conversion to integers are defined on that exact value, so they can be evaluated and reasoned
about without any property of floating-point operations.
-/

namespace XdotViewer

/-- The exact value that a double stands for. -/
inductive Binary64 where
  | nan
  | infinite (negative : Bool)
  /-- `mantissa * 2 ^ exponent`, negated when `negative`; zero keeps its sign. -/
  | finite (negative : Bool) (mantissa : Nat) (exponent : Int)
deriving DecidableEq, Repr

namespace Binary64

/-- Reads sign, exponent and fraction of the binary64 format. -/
def ofBits (bits : UInt64) : Binary64 :=
  let negative := bits >>> 63 != 0
  let exponent := ((bits >>> 52) &&& 0x7ff).toNat
  let fraction := (bits &&& 0xfffffffffffff).toNat
  if exponent = 0x7ff then
    if fraction = 0 then infinite negative else nan
  else if exponent = 0 then finite negative fraction (-1074)
  else finite negative (0x10000000000000 + fraction) ((exponent : Int) - 1075)

def ofFloat (value : Float) : Binary64 :=
  ofBits value.toBits

/-- Puts a sign on a natural number. -/
def signed (negative : Bool) (magnitude : Nat) : Int :=
  if negative then -(magnitude : Int) else magnitude

/-- The magnitude without its fractional part. -/
def wholePart (mantissa : Nat) (exponent : Int) : Nat :=
  if 0 ≤ exponent then mantissa <<< exponent.toNat else mantissa >>> (-exponent).toNat

/-- Whether there is no fractional part; NaN and the infinities are not whole. -/
def isWhole : Binary64 → Bool
  | finite _ mantissa exponent => 0 ≤ exponent || mantissa % (1 <<< (-exponent).toNat) == 0
  | _ => false

/-- The integer next to the value on the side of zero, held inside `low` and `high`; NaN gives 0. -/
def toIntWithin (low high : Int) : Binary64 → Int
  | nan => 0
  | infinite negative => if negative then low else high
  | finite negative mantissa exponent =>
    max low (min high (signed negative (wholePart mantissa exponent)))

/-- The value as a whole number of any size, if it is one. -/
def toWhole? : Binary64 → Option Int
  | finite negative mantissa exponent =>
    if (finite negative mantissa exponent).isWhole then
      some (signed negative (wholePart mantissa exponent))
    else none
  | _ => none

/-- A conversion into an interval that holds zero stays in the interval. -/
theorem toIntWithin_mem {low high : Int} (below : low ≤ 0) (above : 0 ≤ high) (value : Binary64) :
    low ≤ value.toIntWithin low high ∧ value.toIntWithin low high ≤ high := by
  cases value with
  | nan => exact ⟨below, above⟩
  | infinite negative => cases negative <;> simp [toIntWithin] <;> omega
  | finite negative mantissa exponent => simp only [toIntWithin]; omega

end Binary64

/-- A float made from a sign and a natural number; a negative zero is possible. -/
def floatOfSigned (negative : Bool) (magnitude : Nat) : Float :=
  if negative then -(Float.ofNat magnitude) else Float.ofNat magnitude

/-- The nearest whole number, a half going away from zero; the sign of zero is kept. -/
def roundHalfAway (value : Float) : Float :=
  match Binary64.ofFloat value with
  | .finite negative mantissa exponent =>
    if 0 ≤ exponent then value
    else
      let unit := 1 <<< (-exponent).toNat
      floatOfSigned negative ((2 * mantissa + unit) / (2 * unit))
  | _ => value

/-- The greatest whole number that is not above the value. -/
def floorWhole (value : Float) : Float :=
  match Binary64.ofFloat value with
  | .finite negative mantissa exponent =>
    if 0 ≤ exponent then value
    else
      let unit := 1 <<< (-exponent).toNat
      floatOfSigned negative (if negative then (mantissa + unit - 1) / unit else mantissa / unit)
  | _ => value

/-- Signed 64-bit integer of a float: the fraction is dropped, the range is held, NaN gives 0. -/
def toInt64Range (value : Float) : Int :=
  (Binary64.ofFloat value).toIntWithin Int64.minValue.toInt Int64.maxValue.toInt

/-- Unsigned 32-bit integer of a float, in the same manner. -/
def toUInt32Range (value : Float) : Nat :=
  ((Binary64.ofFloat value).toIntWithin 0 (UInt32.size - 1 : Nat)).toNat

/-- Unsigned 8-bit integer of a float, in the same manner. -/
def toByteRange (value : Float) : Nat :=
  ((Binary64.ofFloat value).toIntWithin 0 255).toNat

end XdotViewer
