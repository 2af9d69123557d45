import XdotViewer.Decimal.Binary64

/-! # Numbers as they are written

The decimal literals that operands and attributes may hold: an optional sign, digits with an
optional point, an optional exponent, or one of the words for infinity and NaN. No blanks.
-/

namespace XdotViewer

namespace Literal

def isDigit (c : Char) : Bool :=
  '0' ≤ c && c ≤ '9'

/-- The number that a run of decimal digits stands for. -/
def digitsValue (digits : List Char) : Nat :=
  digits.foldl (fun value c => 10 * value + (c.toNat - '0'.toNat)) 0

/-- The digits at the front and what follows them. -/
def spanDigits (text : List Char) : List Char × List Char :=
  (text.takeWhile isDigit, text.dropWhile isDigit)

/-- Takes a sign off the front; `true` means minus. -/
def takeSign : List Char → Bool × List Char
  | '-' :: rest => (true, rest)
  | '+' :: rest => (false, rest)
  | text => (false, text)

/-- Drops one plus sign. -/
def dropPlus : List Char → List Char
  | '+' :: rest => rest
  | text => text

/-- What follows the mantissa: nothing, or a complete exponent. -/
def exponent? : List Char → Option Int
  | [] => some 0
  | mark :: rest =>
    if mark = 'e' ∨ mark = 'E' then
      let (negative, digits) := takeSign rest
      if digits ≠ [] ∧ digits.all isDigit then
        some (Binary64.signed negative (digitsValue digits))
      else none
    else none

/-- An unsigned decimal as `digits * 10 ^ exponent`. -/
def unsigned? (text : List Char) : Option (List Char × Int) :=
  let (whole, rest) := spanDigits text
  let (fraction, rest) := match rest with
    | '.' :: rest => spanDigits rest
    | _ => ([], rest)
  if whole = [] ∧ fraction = [] then none
  else (exponent? rest).map fun power => (whole ++ fraction, power - fraction.length)

/-- The float nearest to `digits * 10 ^ exponent`; out of range it is zero or infinity. -/
def nearest (digits : List Char) (exponent : Int) : Float :=
  let value := digitsValue digits
  if value = 0 then 0.0
  else if 400 < exponent + (Nat.toDigits 10 value).length then 1.0 / 0.0
  else if exponent + (Nat.toDigits 10 value).length < -400 then 0.0
  else Float.ofScientific value (decide (exponent < 0)) exponent.natAbs

/-- The words for special values, in any letter case. -/
def word? (text : List Char) : Option Float :=
  let lower := text.map Char.toLower
  if lower = "inf".toList ∨ lower = "infinity".toList then some (1.0 / 0.0)
  else if lower = "nan".toList then some (0.0 / 0.0)
  else none

end Literal

/-- Reads a float; the whole text must be one literal. -/
def readFloat? (text : List Char) : Option Float :=
  let (negative, magnitude) := Literal.takeSign text
  let value := match Literal.word? magnitude with
    | some special => some special
    | none => (Literal.unsigned? magnitude).map fun (digits, exponent) =>
        Literal.nearest digits exponent
  value.map fun (v : Float) => if negative then -v else v

/-- Reads a natural number below `bound`: digits after an optional plus. -/
def readNatBelow? (bound : Nat) (text : List Char) : Option Nat :=
  let digits := Literal.dropPlus text
  if digits ≠ [] ∧ digits.all Literal.isDigit ∧ Literal.digitsValue digits < bound then
    some (Literal.digitsValue digits)
  else none

/-- Reads an unsigned machine word of 64 bits. -/
def readWord? (text : List Char) : Option Nat :=
  readNatBelow? UInt64.size text

/-- The decimal digits of a number are digits. -/
theorem isDigit_of_mem_toDigits {n : Nat} {c : Char} (member : c ∈ Nat.toDigits 10 n) :
    Literal.isDigit c = true := by
  have digit := Nat.isDigit_of_mem_toDigits (by decide) (by decide) member
  simpa [Literal.isDigit, Char.isDigit, Char.le_def] using digit

/-- A number is read off its decimal digits. -/
theorem readNatBelow?_toDigits {bound n : Nat} (small : n < bound) :
    readNatBelow? bound (Nat.toDigits 10 n) = some n := by
  have unsigned : Literal.dropPlus (Nat.toDigits 10 n) = Nat.toDigits 10 n := by
    unfold Literal.dropPlus
    split
    · rename_i rest shape
      have plus := isDigit_of_mem_toDigits (shape ▸ List.mem_cons_self)
      exact absurd plus (by decide)
    · rfl
  have value : Literal.digitsValue (Nat.toDigits 10 n) = n := Nat.ofDigitChars_ten_toDigits
  have digits : (Nat.toDigits 10 n).all Literal.isDigit = true :=
    List.all_eq_true.mpr fun c member => isDigit_of_mem_toDigits member
  rw [readNatBelow?, unsigned, value, if_pos ⟨Nat.toDigits_ne_nil, digits, small⟩]

end XdotViewer
