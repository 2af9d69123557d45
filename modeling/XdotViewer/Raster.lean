import XdotViewer.Color
import XdotViewer.Geometry.Scalar

/-! # Rasters

A raster gives each of its pixels a color with transparency. It is a function of the place, so a
picture of any size can be described and only the pixels that are wanted are worked out.
-/

namespace XdotViewer

structure Rgba where
  red : UInt8
  green : UInt8
  blue : UInt8
  alpha : UInt8
deriving DecidableEq, Repr

namespace Rgba

def transparent : Rgba :=
  ⟨0, 0, 0, 0⟩

def ofColor (color : Color) : Rgba :=
  let alpha := toByteRange (roundHalfAway (Scalar.clamp 0.0 1.0 color.opacity * 255.0))
  ⟨color.red, color.green, color.blue, .ofNat alpha⟩

/-- A channel of two colors one over the other, weighted by how much of each is seen. -/
def mixChannel (top bottom : UInt8) (topWeight bottomWeight : Nat) : UInt8 :=
  let weight := topWeight + bottomWeight
  .ofNat ((top.toNat * topWeight + bottom.toNat * bottomWeight + weight / 2) / weight)

/-- One color over another. -/
def blend (top bottom : Rgba) : Rgba :=
  if top.alpha = 255 then top
  else if top.alpha = 0 then bottom
  else
    let topWeight := top.alpha.toNat * 255
    let bottomWeight := bottom.alpha.toNat * (255 - top.alpha.toNat)
    let mix (a b : UInt8) := mixChannel a b topWeight bottomWeight
    ⟨mix top.red bottom.red, mix top.green bottom.green, mix top.blue bottom.blue,
      .ofNat ((topWeight + bottomWeight + 127) / 255)⟩

/-- A color of which only a share is seen. The share is cut to 256ths, and what is left of a byte
to a whole number. -/
def fade (color : Rgba) (share : Float) : Rgba :=
  let part := (255 * (Binary64.toIntWithin 0 256 (.ofFloat (share * 256.0))).toNat) / 256
  { color with alpha := .ofNat ((color.alpha.toNat * part + 127) / 255) }

end Rgba

structure Raster where
  width : Nat
  height : Nat
  pixel : Nat → Nat → Rgba

namespace Raster

/-- A row of pixels takes four bytes for each and has to fit a signed word of 32 bits. -/
def fits (width _height : Nat) : Bool :=
  max 1 width * 4 < 0x80000000

/-- A raster of one color; no side is shorter than a pixel. -/
def uniform (width height : Nat) (color : Rgba) : Raster :=
  ⟨max 1 width, max 1 height, fun _ _ => color⟩

def blank (width height : Nat) : Raster :=
  uniform width height .transparent

/-- The color `x` pixels after the start of row `y`. Pixels are numbered row after row, so a row
that ends before is followed into the next one, and only the end of the last row ends them. -/
def pixel? (raster : Raster) (x y : Nat) : Option Rgba :=
  let place := y * raster.width + x
  if place < raster.width * raster.height then
    some (raster.pixel (place % raster.width) (place / raster.width))
  else
    none

end Raster
end XdotViewer
