import XdotViewer.Raster.Single

/-! # Placements

A placement takes the coordinates of a drawing to those of the raster: they are stretched, then
moved.
-/

namespace XdotViewer

structure Placement where
  sx : Float32 := 1.0
  sy : Float32 := 1.0
  dx : Float32 := 0.0
  dy : Float32 := 0.0
deriving BEq

namespace Placement

/-- Whether every point stays where it is. -/
def isIdentity (place : Placement) : Bool :=
  place == {}

def translate (place : Placement) (dx dy : Float32) : Placement :=
  { place with dx := place.sx * dx + place.dx, dy := place.sy * dy + place.dy }

def scale (place : Placement) (sx sy : Float32) : Placement :=
  { place with sx := place.sx * sx, sy := place.sy * sy }

def apply (place : Placement) (p : Point Float32) : Point Float32 :=
  ⟨p.x * place.sx + place.dx, p.y * place.sy + place.dy⟩

/-- The point that is placed at a spot. -/
def invert (place : Placement) (p : Point Float) : Point Float :=
  ⟨(p.x - place.dx.toFloat) / place.sx.toFloat, (p.y - place.dy.toFloat) / place.sy.toFloat⟩

/-- How much longer a line may become. -/
def stretch (place : Placement) : Float32 :=
  Scalar.max place.sx.abs place.sy.abs

end Placement
end XdotViewer
