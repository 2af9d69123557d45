import XdotViewer.Decimal.Shortest

/-! # How a shortest decimal is laid out

A layout record holds the decisions of one output format: which magnitudes are written
positionally, whether a whole value keeps `.0`, and what stands for NaN and the infinities.
-/

namespace XdotViewer

structure Layout where
  /-- The exponents of the leading digit that are written positionally; `none` means all. -/
  positional : Option (Int × Int)
  /-- A whole value is written with `.0`. -/
  pointZero : Bool
  /-- Which of two shortest decimals is written if both are as near. -/
  tie : Decimal.Tie
  nan : String
  infinity : String
  negativeInfinity : String

namespace Layout

def zeros (count : Nat) : String :=
  String.ofList (List.replicate count '0')

/-- The digits with the point after position `point`, which may lie outside of them. -/
def positionalText (layout : Layout) (digits : String) (point : Int) : String :=
  let tail := if layout.pointZero then ".0" else ""
  if point ≤ 0 then "0." ++ zeros (-point).toNat ++ digits
  else if digits.length ≤ point.toNat then digits ++ zeros (point.toNat - digits.length) ++ tail
  else (digits.take point.toNat).toString ++ "." ++ (digits.drop point.toNat).toString

/-- One digit, the fraction if there is one, and the power of ten with its sign. -/
def scientificText (digits : String) (leading : Int) : String :=
  let fraction := if digits.length = 1 then "" else "." ++ (digits.drop 1).toString
  let sign := if leading < 0 then "-" else "+"
  (digits.take 1).toString ++ fraction ++ "e" ++ sign ++ toString leading.natAbs

/-- Writes the magnitude of a decimal. -/
def decimalText (layout : Layout) (value : Decimal) : String :=
  if value.digits = 0 then (if layout.pointZero then "0.0" else "0")
  else
    let digits := toString value.digits
    let point := (digits.length : Int) + value.exponent
    let positional := match layout.positional with
      | none => true
      | some (low, high) => low ≤ point - 1 && point - 1 ≤ high
    if positional then layout.positionalText digits point else scientificText digits (point - 1)

/-- Writes a float with the fewest digits that read back. -/
def write (layout : Layout) (value : Float) : String :=
  match Binary64.ofFloat value with
  | .nan => layout.nan
  | .infinite negative => if negative then layout.negativeInfinity else layout.infinity
  | .finite negative mantissa exponent =>
    (if negative then "-" else "") ++ layout.decimalText (.shortest layout.tie mantissa exponent)

end Layout

/-- Numbers inside texts: always positional, a whole value without a fraction. -/
def Layout.inText : Layout where
  positional := none
  pointZero := false
  tie := .up
  nan := "NaN"
  infinity := "inf"
  negativeInfinity := "-inf"

end XdotViewer
