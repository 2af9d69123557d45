import XdotViewer.Color
import XdotViewer.Text.Blank
import XdotViewer.Text.Hexadecimal

/-! # Hexadecimal colors

`#rrggbb` or `#rrggbbaa`. One acceptor checks the form of a literal, with blanks only after a pair
of digits; the reader itself passes over blanks anywhere.
-/

namespace XdotViewer.Color

/-- The channel that two characters name; a plus sign may stand for the first digit. -/
def channel? (a b : Char) : Option UInt8 :=
  if a = '+' then (Hexadecimal.digit? b).map UInt8.ofNat
  else do
    let high ← Hexadecimal.digit? a
    let low ← Hexadecimal.digit? b
    some (UInt8.ofNat (16 * high + low))

/-- Reads three channels, and an opacity in parts of 255 if there is a fourth pair. -/
def ofPairs? : List Char → Option Color
  | [a, b, c, d, e, f] => do
    some (opaqueOf (← channel? a b) (← channel? c d) (← channel? e f))
  | [a, b, c, d, e, f, g, h] => do
    let red ← channel? a b
    let green ← channel? c d
    let blue ← channel? e f
    let alpha ← channel? g h
    some ⟨red, green, blue, Float.ofNat alpha.toNat / 255.0⟩
  | _ => none

/-- Reads a color after its number sign; blanks do not count. -/
def parseHex? : List Char → Option Color
  | '#' :: text => ofPairs? (text.filter fun c => !isBlank c)
  | _ => none

/-- Exactly `count` pairs of digits, each with blanks after it. -/
def isPairs : Nat → List Char → Bool
  | 0, text => text.isEmpty
  | count + 1, a :: b :: rest =>
    Hexadecimal.isDigit a && Hexadecimal.isDigit b && isPairs count (trimStart rest)
  | _, _ => false

/-- Whether a literal has the form of a hexadecimal color. -/
def isHexLiteral : List Char → Bool
  | '#' :: text => isPairs 3 text || isPairs 4 text
  | _ => false

/-- A literal without a number sign is no hex color. -/
theorem parseHex?_eq_none_of_head {c : Char} {text : List Char} (other : c ≠ '#') :
    parseHex? (c :: text) = none := by
  unfold parseHex?
  split
  · rename_i same
    cases same
    exact absurd rfl other
  · rfl

end XdotViewer.Color
