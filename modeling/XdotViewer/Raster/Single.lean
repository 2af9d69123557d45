import XdotViewer.Geometry.Outline
import XdotViewer.Geometry.Rect

/-! # Single precision

The coordinates of a raster are floats of single precision. A coordinate is rounded when it comes
in, and every operation rounds again, so that places far away from the origin lie on a coarse grid.
-/

namespace XdotViewer

instance : Scalar Float32 where
  decidableLT := fun a b => Float32.decLt a b
  decidableLE := fun a b => Float32.decLe a b
  abs := Float32.abs
  sqrt := Float32.sqrt
  floor := fun a => (floorWhole a.toFloat).toFloat32
  round := fun a => (roundHalfAway a.toFloat).toFloat32
  toInt := fun a => toInt64Range a.toFloat
  isFinite := Float32.isFinite
  ofRat := fun r => (floatOfRat r).toFloat32

namespace Point

/-- The nearest point whose coordinates have single precision. -/
def toSingle (p : Point Float) : Point Float32 :=
  ⟨p.x.toFloat32, p.y.toFloat32⟩

/-- The same point in double precision. -/
def toDouble (p : Point Float32) : Point Float :=
  ⟨p.x.toFloat, p.y.toFloat⟩

end Point

/-- The box of some points, if they are finite and so are its width and height. -/
def extent? (points : List (Point Float32)) : Option (Rect Float32) :=
  if points.all fun p => p.x.isFinite && p.y.isFinite then
    (Rect.around points).filter fun box => box.width.isFinite && box.height.isFinite
  else none

end XdotViewer
