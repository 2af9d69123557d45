import XdotViewer.Color
import XdotViewer.Geometry.Outline
import XdotViewer.Json

/-! # Canvas operations

Drawing is described by a list of operations on a canvas. The canvas has a current path, a current
pen and a stack of saved states; pictures of type `ι` may be placed on it.
-/

namespace XdotViewer

inductive LineCap where
  | butt
  | round
  | square
deriving DecidableEq, Repr

namespace LineCap

def key : LineCap → String
  | butt => "butt"
  | round => "round"
  | square => "square"

def all : List LineCap := [butt, round, square]

def ofKey? (key : String) : Option LineCap :=
  all.find? fun cap => cap.key == key

end LineCap

inductive DrawOp (ι : Type) where
  | resize (width height : Nat)
  | save
  | restore
  | translate (dx dy : Float)
  | scale (sx sy : Float)
  /-- Paints the area from the origin to the given extent. -/
  | clear (color : Color) (width height : Float)
  | fillColor (color : Color)
  | strokeColor (color : Color)
  | lineWidth (width : Float)
  | lineCap (cap : LineCap)
  | property (name value : String)
  | beginPath
  | path (step : Stroke Float)
  | fill
  | stroke
  | image (picture : ι) (left top width height : Float)

namespace DrawOp

variable {ι : Type}

/-- A pen movement as data. -/
def strokeFields : Stroke Float → List (String × Json)
  | .move p => [("op", .str "moveTo"), ("x", .float p.x), ("y", .float p.y)]
  | .line p => [("op", .str "lineTo"), ("x", .float p.x), ("y", .float p.y)]
  | .quad c p =>
    [("op", .str "quadTo"), ("x1", .float c.x), ("y1", .float c.y), ("x", .float p.x),
     ("y", .float p.y)]
  | .cubic c d p =>
    [("op", .str "cubicTo"), ("x1", .float c.x), ("y1", .float c.y), ("x2", .float d.x),
     ("y2", .float d.y), ("x", .float p.x), ("y", .float p.y)]

/-- An operation as data; pictures are left out. -/
def fields : DrawOp ι → List (String × Json)
  | resize w h => [("op", .str "resize"), ("width", .int w), ("height", .int h)]
  | save => [("op", .str "save")]
  | restore => [("op", .str "restore")]
  | translate dx dy => [("op", .str "translate"), ("dx", .float dx), ("dy", .float dy)]
  | scale sx sy => [("op", .str "scale"), ("sx", .float sx), ("sy", .float sy)]
  | clear color w h =>
    [("op", .str "clear"), ("color", .str color.canvasText), ("width", .float w),
     ("height", .float h)]
  | fillColor color => [("op", .str "fillColor"), ("color", .str color.canvasText)]
  | strokeColor color => [("op", .str "strokeColor"), ("color", .str color.canvasText)]
  | lineWidth w => [("op", .str "lineWidth"), ("width", .float w)]
  | lineCap cap => [("op", .str "lineCap"), ("cap", .str cap.key)]
  | property name value =>
    [("op", .str "property"), ("name", .str name), ("value", .str value)]
  | beginPath => [("op", .str "beginPath")]
  | path step => strokeFields step
  | fill => [("op", .str "fill")]
  | stroke => [("op", .str "stroke")]
  | image _ l t w h =>
    [("op", .str "image"), ("l", .float l), ("t", .float t), ("w", .float w), ("h", .float h)]

def toJson (op : DrawOp ι) : Json :=
  .obj op.fields

end DrawOp
end XdotViewer
