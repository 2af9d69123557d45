import XdotViewer.Canvas
import XdotViewer.Geometry.Path
import XdotViewer.Json.Settings
import XdotViewer.OrderedMap

/-! # Painting paths

A path is filled, stroked or both, as its style says. A filled path is not stroked in the color
that it is filled with. Dashes and dots are laid out along the path, and where that comes to no end,
the path is never stroked.
-/

namespace XdotViewer

inductive LineType where
  | solid
  | dashed
  | dotted
deriving DecidableEq, Repr

namespace LineType

def key : LineType → String
  | solid => "solid"
  | dashed => "dashed"
  | dotted => "dotted"

def all : List LineType := [solid, dashed, dotted]

end LineType

structure PathStyle where
  fill : Bool := false
  stroke : Bool := true
  line : LineType := .solid
  dashLength : Float := 6.0
  dotSpacing : Float := 4.0
  /-- Properties handed to the canvas as they are, in the order of their names. -/
  extras : List (String × String) := []

namespace PathStyle

def names : List String :=
  ["fill", "stroke", "strokeType", "dashLength", "dotSpacing", "extras"]

/-- Entries in the order of their names; of equal names the last stays. -/
def sortExtras (entries : List (String × String)) : List (String × String) :=
  (OrderedMap.ofList entries).entries.mergeSort fun a b => decide (a.1 ≤ b.1)

def ofJson? (value : Json) : Option PathStyle := do
  let given ← value.settings? names
  let defaults : PathStyle := {}
  return {
    fill := ← Json.setting given "fill" defaults.fill Json.bool?
    stroke := ← Json.setting given "stroke" defaults.stroke Json.bool?
    line := ← Json.setting given "strokeType" defaults.line
      (Json.choice? LineType.all LineType.key)
    dashLength := ← Json.setting given "dashLength" defaults.dashLength Json.finite?
    dotSpacing := ← Json.setting given "dotSpacing" defaults.dotSpacing Json.finite?
    extras := sortExtras (← Json.setting given "extras" defaults.extras Json.texts?) }

def toJson (style : PathStyle) : Json :=
  .obj [("fill", .bool style.fill), ("stroke", .bool style.stroke),
    ("strokeType", .str style.line.key), ("dashLength", .float style.dashLength),
    ("dotSpacing", .float style.dotSpacing),
    ("extras", .obj (style.extras.map fun (name, value) => (name, .str value)))]

end PathStyle

/-- What the canvas fills and strokes with. -/
structure Pen where
  fill : Color := .black
  stroke : Color := .black
  width : Float := 1.0

variable {ι : Type}

/-- Dotted lines are never thinner than this. -/
def minDotWidth : Float := 2.0

def strokeOutline (outline : Outline Float) : List (DrawOp ι) :=
  .beginPath :: outline.map .path ++ [.stroke]

/-- Whether the outline is left out: it is not wanted, or the fill has shown it already. -/
def outlineHidden (style : PathStyle) (pen : Pen) : Bool :=
  !style.stroke || style.fill && pen.fill == pen.stroke

/-- The operations that stroke along an outline; a solid line uses the outline that was just
filled. -/
def strokeAlong (style : PathStyle) (pen : Pen) (outline : Outline Float) : List (DrawOp ι) :=
  match style.line with
  | .solid => if style.fill then [.stroke] else strokeOutline outline
  | .dashed => strokeOutline outline
  | .dotted =>
    if pen.width < minDotWidth then
      .lineWidth minDotWidth :: strokeOutline outline ++ [.lineWidth pen.width]
    else strokeOutline outline

/-- The outline that a path is stroked along, if it can be laid out to its end. -/
def strokedOutline? (path : Path Float) (style : PathStyle) : Option (Outline Float) :=
  match style.line with
  | .solid => some path.outline
  | .dashed => path.dashedOutline? style.dashLength
  | .dotted => path.dottedOutline? style.dotSpacing

/-- The operations that stroke a path, if the stroke comes to an end. -/
def strokePath? (path : Path Float) (style : PathStyle) (pen : Pen) : Option (List (DrawOp ι)) :=
  if outlineHidden style pen then some []
  else (strokedOutline? path style).map (strokeAlong style pen)

def fillPath (path : Path Float) : List (DrawOp ι) :=
  .beginPath :: path.outline.map .path ++ [.fill]

/-- The operations of a path before it is stroked. -/
def beforeStroke (path : Path Float) (style : PathStyle) : List (DrawOp ι) :=
  style.extras.map (fun (name, value) => .property name value) ++
    if style.fill then fillPath path else []

/-- The operations that paint a path. A stroke without an end adds none. -/
def paintPath (path : Path Float) (style : PathStyle) (pen : Pen) : List (DrawOp ι) :=
  beforeStroke path style ++ (strokePath? path style pen).getD []

/-- The color of the sign for a picture that is not there. -/
def missingImageColor : Color := .opaqueOf 255 0 0

/-- A red box with both diagonals, in place of a picture that is not there. -/
def paintMissingImage (left top width height : Float) : List (DrawOp ι) :=
  let right := left + width
  let bottom := top + height
  let box : Path Float := .ofShape (.rect ⟨left, top, right, bottom⟩)
  let diagonals : Outline Float :=
    [.move ⟨left, top⟩, .line ⟨right, bottom⟩, .move ⟨right, top⟩, .line ⟨left, bottom⟩]
  [.save, .beginPath] ++ (box.outline ++ diagonals).map .path ++
    [.strokeColor missingImageColor, .lineWidth 1.0, .stroke, .restore]

end XdotViewer
