import XdotViewer.Raster
import XdotViewer.Raster.Nib

/-! # Painting rasters

A painter carries out canvas operations on a raster. Every pixel takes the color that is painted at
its center.
-/

namespace XdotViewer

/-- What the canvas saves and restores. -/
structure Brush where
  place : Placement := {}
  fill : Rgba := .ofColor .black
  stroke : Rgba := .ofColor .black
  width : Float32 := 1.0
  cap : LineCap := .butt

structure Painter where
  raster : Raster
  brush : Brush
  saved : List Brush
  /-- The current path, its last movement first. -/
  reversed : Outline Float32

/-- Paints an area with a color for each point. -/
def Raster.paint (raster : Raster) (area : Area) (color : Point Float → Rgba) : Raster :=
  { raster with
    pixel := fun x y =>
      if area.contains x y then
        let top := color (pixelCenter x y)
        if top.alpha = 255 then top else top.blend (raster.pixel x y)
      else raster.pixel x y }

def Raster.paint? (raster : Raster) (area : Option Area) (color : Point Float → Rgba) : Raster :=
  match area with
  | some area => raster.paint area color
  | none => raster

/-- The color of a raster at a point of the unit square; outside of it the edge goes on. -/
def Raster.sample (raster : Raster) (u v : Float) : Rgba :=
  let place (size : Nat) (t : Float) : Nat :=
    (Binary64.toIntWithin 0 (size - 1) (.ofFloat (t * Float.ofNat size))).toNat
  raster.pixel (place raster.width u) (place raster.height v)

namespace Painter

def new (width height : Nat) : Painter :=
  ⟨.blank width height, {}, [], []⟩

def outline (painter : Painter) : Outline Float32 :=
  painter.reversed.reverse

/-- Makes the raster transparent and paints a box at the origin, if it has an extent. -/
def clear (painter : Painter) (color : Color) (width height : Float32) : Raster :=
  let blank := Raster.blank painter.raster.width painter.raster.height
  if 0.0 < width && 0.0 < height then
    blank.paint? (Area.ofBox? painter.brush.place width height) fun _ => .ofColor color
  else blank

def fill (painter : Painter) : Raster :=
  let brush := painter.brush
  painter.raster.paint? (Area.ofFill? brush.place painter.outline) fun _ => brush.fill

def stroke (painter : Painter) : Raster :=
  let brush := painter.brush
  match Nib.hairShare? brush.place brush.width with
  | some share =>
    painter.raster.paint? (Area.ofHairline? brush.place brush.cap painter.outline)
      fun _ => brush.stroke.fade share.toFloat
  | none =>
    painter.raster.paint? (Area.ofStroke? brush.place brush.width brush.cap painter.outline)
      fun _ => brush.stroke

/-- Places a picture in a rectangle: its pixels are stretched, then moved. -/
def placeImage (painter : Painter) (picture : Raster) (left top width height : Float32) :
    Raster :=
  let columns := Float32.ofNat picture.width
  let rows := Float32.ofNat picture.height
  let place := (painter.brush.place.translate left top).scale (width / columns) (height / rows)
  painter.raster.paint? (Area.ofSharpBox? place columns rows) fun p =>
    let q := place.invert p
    picture.sample (q.x / columns.toFloat) (q.y / rows.toFloat)

def apply (painter : Painter) : DrawOp Raster → Painter
  | .resize width height => if Raster.fits width height then new width height else painter
  | .save => { painter with saved := painter.brush :: painter.saved }
  | .restore =>
    match painter.saved with
    | brush :: saved => { painter with brush, saved }
    | [] => painter
  | .translate dx dy =>
    let place := painter.brush.place.translate dx.toFloat32 dy.toFloat32
    { painter with brush := { painter.brush with place } }
  | .scale sx sy =>
    let place := painter.brush.place.scale sx.toFloat32 sy.toFloat32
    { painter with brush := { painter.brush with place } }
  | .clear color width height =>
    { painter with raster := painter.clear color width.toFloat32 height.toFloat32 }
  | .fillColor color => { painter with brush := { painter.brush with fill := .ofColor color } }
  | .strokeColor color => { painter with brush := { painter.brush with stroke := .ofColor color } }
  | .lineWidth width =>
    { painter with brush := { painter.brush with width := width.toFloat32 } }
  | .lineCap cap => { painter with brush := { painter.brush with cap } }
  | .property _ _ => painter
  | .beginPath => { painter with reversed := [] }
  | .path step => { painter with reversed := step.map Point.toSingle :: painter.reversed }
  | .fill => { painter with raster := painter.fill }
  | .stroke => { painter with raster := painter.stroke }
  | .image picture left top width height =>
    let raster := painter.placeImage picture left.toFloat32 top.toFloat32 width.toFloat32
      height.toFloat32
    { painter with raster }

def applyAll (painter : Painter) (ops : List (DrawOp Raster)) : Painter :=
  ops.foldl apply painter

end Painter
end XdotViewer
