import XdotViewer.Color
import XdotViewer.Decimal.Literal
import XdotViewer.Geometry.Scalar
import XdotViewer.Text.Blank

/-! # Colors by hue, saturation and value

The hue circle has six sectors. The channels are computed over any scalar and rounded last.
-/

namespace XdotViewer

namespace Hsv

variable {α : Type} [Scalar α]

/-- Red, green and blue between 0 and 1, before rounding. -/
def channels (hue saturation value : α) : α × α × α :=
  let degrees := hue * 360.0
  let sector := Scalar.floor (degrees / 60.0)
  let f := degrees / 60.0 - sector
  let p := value * (1.0 - saturation)
  let q := value * (1.0 - f * saturation)
  let t := value * (1.0 - (1.0 - f) * saturation)
  match (Scalar.toInt sector).emod 6 with
  | 0 => (value, t, p)
  | 1 => (q, value, p)
  | 2 => (p, value, t)
  | 3 => (p, q, value)
  | 4 => (t, p, value)
  | _ => (value, p, q)

/-- A channel in parts of 255. -/
def channel (c : α) : Nat :=
  (Scalar.toInt (Scalar.clamp 0.0 255.0 (Scalar.round (255.0 * c)))).toNat

/-- A number of a triple: digits, and a point only with digits after it. -/
def number? (text : List Char) : Option (List Char × List Char) :=
  match Literal.spanDigits text with
  | ([], _) => none
  | (whole, '.' :: rest) =>
    match Literal.spanDigits rest with
    | ([], _) => some (whole, '.' :: rest)
    | (fraction, rest) => some (whole ++ '.' :: fraction, rest)
  | (whole, rest) => some (whole, rest)

def isSeparator (c : Char) : Bool :=
  c = ',' || isBlank c

/-- Drops the separators at the front; there has to be at least one. -/
def afterSeparators? : List Char → Option (List Char)
  | c :: rest => if isSeparator c then some (rest.dropWhile isSeparator) else none
  | [] => none

/-- Three numbers with separators between them and nothing else. -/
def triple? (text : List Char) : Option (Float × Float × Float) := do
  let (h, text) ← number? text
  let text ← afterSeparators? text
  let (s, text) ← number? text
  let text ← afterSeparators? text
  let (v, text) ← number? text
  if text.isEmpty then
    some ((readFloat? h).getD 0.0, (readFloat? s).getD 0.0, (readFloat? v).getD 0.0)
  else none

end Hsv

/-- The color with a hue, a saturation and a value, each between 0 and 1. -/
def Color.ofHsv {α : Type} [Scalar α] (hue saturation value : α) : Color :=
  let (r, g, b) := Hsv.channels hue saturation value
  .opaqueOf (.ofNat (Hsv.channel r)) (.ofNat (Hsv.channel g)) (.ofNat (Hsv.channel b))

end XdotViewer
