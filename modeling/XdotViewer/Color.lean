import XdotViewer.Decimal.Layout
import XdotViewer.Text.Hexadecimal

/-! # Colors

A color has three channels and an opacity of its own. Its text is `#rrggbb` when it is opaque.
-/

namespace XdotViewer

structure Color where
  red : UInt8
  green : UInt8
  blue : UInt8
  opacity : Float
deriving BEq, Repr

namespace Color

def opaqueOf (red green blue : UInt8) : Color :=
  ⟨red, green, blue, 1.0⟩

def black : Color := opaqueOf 0 0 0

def white : Color := opaqueOf 255 255 255

instance : Inhabited Color := ⟨black⟩

def isOpaque (color : Color) : Bool :=
  1.0 ≤ color.opacity

/-- `#rrggbb`, without the opacity. -/
def text (color : Color) : String :=
  String.ofList ('#' ::
    [color.red, color.green, color.blue].flatMap fun channel => Hexadecimal.pair channel.toNat)

/-- The text of a color on a drawing surface: `rgba(r,g,b,o)` when it is not opaque. -/
def canvasText (color : Color) : String :=
  if color.isOpaque then color.text
  else
    "rgba(" ++ toString color.red.toNat ++ "," ++ toString color.green.toNat ++ "," ++
      toString color.blue.toNat ++ "," ++ Layout.inText.write color.opacity ++ ")"

end Color
end XdotViewer
