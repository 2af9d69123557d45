/-! # Hexadecimal digits

Digits are read in either case of their letters and written with small ones.
-/

namespace XdotViewer

namespace Hexadecimal

/-- The value of a digit. -/
def digit? (c : Char) : Option Nat :=
  if '0' ≤ c ∧ c ≤ '9' then some (c.toNat - '0'.toNat)
  else if 'a' ≤ c ∧ c ≤ 'f' then some (c.toNat - 'a'.toNat + 10)
  else if 'A' ≤ c ∧ c ≤ 'F' then some (c.toNat - 'A'.toNat + 10)
  else none

def isDigit (c : Char) : Bool :=
  (digit? c).isSome

/-- The two lowest digits of a number. -/
def pair (value : Nat) : List Char :=
  [Nat.digitChar (value / 16 % 16), Nat.digitChar (value % 16)]

/-- All digits of a number, without padding. -/
def digits (value : Nat) : List Char :=
  Nat.toDigits 16 value

end Hexadecimal
end XdotViewer
