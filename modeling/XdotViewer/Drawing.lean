import XdotViewer.Drawing.Pass

/-! # Drawings

A drawing keeps the options, the images and the results of the last passes, and draws documents
with them. The overlay and the boxes come from the last full pass, the diagnostics from the last
pass of any kind.
-/

namespace XdotViewer

inductive DrawError where
  | seed (error : SeedError)
  /-- The canvas cannot take that size. -/
  | canvas (width height : Nat)
deriving DecidableEq, Repr

def DrawError.message : DrawError → String
  | seed error => error.message
  | canvas width height =>
    "drawing surface error: cannot allocate a " ++ toString width ++ "x" ++ toString height ++
      " pixmap"

structure Drawing (ι : Type) where
  options : Options
  images : Images ι
  overlay : Overlay
  boxes : OrderedMap EntityRef (Rect Float)
  diagnostics : List Diagnostic

namespace Drawing

variable {ι : Type}

def new (options : Options) : Drawing ι where
  options := options
  images := .empty options.imageBase
  overlay := ∅
  boxes := ∅
  diagnostics := []

/-- Replaces the options; the base counts for images asked for from now on. -/
def setOptions (drawing : Drawing ι) (options : Options) : Drawing ι :=
  { drawing with options, images := drawing.images.setBase options.imageBase }

def setScale (drawing : Drawing ι) (scale : Float) : Drawing ι :=
  { drawing with options := { drawing.options with scale } }

def setImageBase (drawing : Drawing ι) (base : String) : Drawing ι :=
  drawing.setOptions { drawing.options with imageBase := base }

/-- What the next pass over a document looks at. -/
def setting (drawing : Drawing ι) (document : Document) (palettes : Palettes) : Setting ι where
  document := document
  palettes := palettes
  options := drawing.options
  images := drawing.images.state

def canvasSize (drawing : Drawing ι) (document : Document) : Nat × Nat :=
  (drawing.setting document .minimal).canvasSize

/-- The result of a pass: whether it failed, what it did on the canvas, and the drawing after it. An
endless pass has no result: then all this is what there would be without its endless strokes. -/
structure Outcome (ι : Type) where
  error : Option DrawError
  ops : List (DrawOp ι)
  drawing : Drawing ι
  /-- Whether the pass never comes to an end. -/
  endless : Bool

/-- The pass comes to an end, with an error or without one. -/
def Outcome.Returns (outcome : Outcome ι) (error : Option DrawError) : Prop :=
  outcome.endless = false ∧ outcome.error = error

def needImages (drawing : Drawing ι) (trace : Trace ι) : Drawing ι :=
  { drawing with
    images := drawing.images.requestAll trace.sources
    diagnostics := trace.diagnostics }

/-- Paints a document again. -/
def repaint (drawing : Drawing ι) (document : Document) (palettes : Palettes) : Outcome ι :=
  let trace := (drawing.setting document palettes).repaint
  ⟨none, trace.ops, drawing.needImages trace, trace.endless⟩

/-- Draws a document from the start on a canvas that takes the sizes that `fits` allows. -/
def draw (drawing : Drawing ι) (fits : Nat → Nat → Bool) (document : Document)
    (palettes : Palettes) : Outcome ι :=
  let setting := drawing.setting document palettes
  let (width, height) := setting.canvasSize
  if fits width height then
    let pass := setting.fullPass
    { error := pass.error.map .seed
      ops := pass.trace.ops
      drawing :=
        { drawing.needImages pass.trace with overlay := pass.overlay, boxes := pass.boxes }
      endless := pass.trace.endless }
  else ⟨some (.canvas width height), [], { drawing with diagnostics := [] }, false⟩

/-- A full pass, or a repaint. -/
def pass (drawing : Drawing ι) (fits : Nat → Nat → Bool) (document : Document)
    (palettes : Palettes) (full : Bool) : Outcome ι :=
  if full then drawing.draw fits document palettes else drawing.repaint document palettes

section Draw

variable {drawing : Drawing ι} {fits : Nat → Nat → Bool} {document : Document} (palettes : Palettes)

/-- On a canvas that takes its size, a full pass draws everything. -/
theorem draw_of_fits
    (takes : fits (drawing.canvasSize document).1 (drawing.canvasSize document).2 = true) :
    let pass := (drawing.setting document palettes).fullPass
    drawing.draw fits document palettes = ⟨pass.error.map .seed, pass.trace.ops,
      { drawing.needImages pass.trace with overlay := pass.overlay, boxes := pass.boxes },
      pass.trace.endless⟩ :=
  if_pos takes

/-- Nothing is drawn on a canvas that does not take its size. -/
theorem draw_of_not_fits
    (refused : ¬ fits (drawing.canvasSize document).1 (drawing.canvasSize document).2 = true) :
    drawing.draw fits document palettes =
      ⟨some (.canvas (drawing.canvasSize document).1 (drawing.canvasSize document).2), [],
        { drawing with diagnostics := [] }, false⟩ :=
  if_neg refused

end Draw

end Drawing
end XdotViewer
