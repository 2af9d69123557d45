import XdotViewer.Drawing.Block
import XdotViewer.Drawing.Seed
import XdotViewer.Scene.DrawOrder

/-! # Passes

A pass draws all entities that have draw instructions, in drawing order. A repaint only paints. A
full pass also finds the box of every entity and lays regions and texts over the canvas; it stops
before the first entity without a seed for its box.
-/

namespace XdotViewer

/-- What a full pass has found out about an entity. -/
structure EntityDrawing (ι : Type) where
  entity : EntityRef
  name : String
  trace : Trace ι
  box : Rect Float

namespace Setting

variable {ι : Type}

def hasScripts (setting : Setting ι) (entity : EntityRef) : Bool :=
  (setting.scene.entity? entity).any fun data => !data.drawAttrs.isEmpty

/-- The entities that are drawn, in drawing order. -/
def drawnEntities (setting : Setting ι) : List EntityRef :=
  setting.scene.drawOrder.filter setting.hasScripts

/-- The seed of a box grown by what has been painted. -/
def growBox (seed : Rect Float) (boxes : List (Rect Float)) : Rect Float :=
  boxes.foldl Rect.expand seed

/-- Draws entities until one of them has no seed. -/
def drawEntities (setting : Setting ι) :
    List EntityRef → List (EntityDrawing ι) × Option SeedError
  | [] => ([], none)
  | entity :: rest =>
    match setting.seed entity with
    | .error error => ([], some error)
    | .ok seed =>
      let trace := setting.drawEntity entity
      let drawing : EntityDrawing ι :=
        { entity, name := setting.scene.nameOf entity, trace, box := growBox seed trace.boxes }
      let (drawings, error) := setting.drawEntities rest
      (drawing :: drawings, error)

/-- The operations before the first entity. -/
def header (setting : Setting ι) : List (DrawOp ι) :=
  let (width, height) := setting.canvasSize
  let padding := setting.options.padding
  [.save, .lineCap .round,
   .clear setting.document.metadata.background (Float.ofNat width) (Float.ofNat height),
   .translate padding padding, .scale setting.zoom setting.zoom]

/-- The operations of a pass around those of its entities. -/
def framed (setting : Setting ι) (ops : List (DrawOp ι)) : List (DrawOp ι) :=
  setting.header ++ ops ++ [.restore]

/-- The region that a box takes on the canvas. -/
def region (setting : Setting ι) (drawing : EntityDrawing ι) : Region :=
  let zoom := setting.zoom
  let padding := setting.options.padding
  let box := drawing.box
  { entity := drawing.entity
    name := drawing.name
    left := int64OfFloat (roundHalfAway (zoom * box.left + padding))
    top := int64OfFloat (roundHalfAway (zoom * box.top + padding))
    width := int64OfFloat (roundHalfAway (zoom * box.width))
    height := int64OfFloat (roundHalfAway (zoom * box.height)) }

/-- The texts of an entity, then its region. -/
def elements (setting : Setting ι) (drawing : EntityDrawing ι) : List OverlayElement :=
  drawing.trace.texts.map .text ++ [.region (setting.region drawing)]

/-- The trace of a repaint. -/
def repaint (setting : Setting ι) : Trace ι :=
  let trace := Trace.join (setting.drawnEntities.map setting.drawEntity)
  { trace with ops := setting.framed trace.ops }

end Setting

/-- The results of a full pass. -/
structure FullPass (ι : Type) where
  trace : Trace ι
  overlay : Overlay
  boxes : OrderedMap EntityRef (Rect Float)
  error : Option SeedError

/-- Draws everything; after an error all that was done before it is there. -/
def Setting.fullPass {ι : Type} (setting : Setting ι) : FullPass ι :=
  let (width, height) := setting.canvasSize
  let (drawings, error) := setting.drawEntities setting.drawnEntities
  let trace := Trace.join (drawings.map EntityDrawing.trace)
  { trace := { trace with ops := .resize width height :: setting.framed trace.ops }
    overlay := ⟨width, height, drawings.flatMap setting.elements⟩
    boxes := .ofList (drawings.map fun drawing => (drawing.entity, drawing.box))
    error }

end XdotViewer
