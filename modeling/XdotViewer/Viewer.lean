import XdotViewer.Drawing

/-! # Viewers

A viewer shows one document on one canvas. Images are loaded by whoever uses it: they take the
requests after a pass and hand in the outcomes. With the last outcome the viewer paints again.
-/

namespace XdotViewer

inductive ViewerError where
  | read (error : ReadError)
  | draw (error : DrawError)
  | noDocument
deriving DecidableEq, Repr

def ViewerError.message : ViewerError → String
  | read error => error.message
  | draw error => error.message
  | noDocument => "no document loaded"

structure Viewer (ι : Type) where
  palettes : Palettes
  drawing : Drawing ι
  document : Option Document

namespace Viewer

variable {ι : Type}

def new (options : Options) : Viewer ι :=
  ⟨.standard, .new options, none⟩

/-- What an action returns, what it did on the canvas, and the viewer after it. An endless action
never returns: then all this is what there would be without the endless strokes. -/
structure Result (ι α : Type) where
  value : Except ViewerError α
  ops : List (DrawOp ι)
  viewer : Viewer ι
  /-- Whether the action never comes to an end. -/
  endless : Bool

/-- Replaces the document; a text that is none changes nothing. -/
def parse (viewer : Viewer ι) (text : String) : Result ι Document :=
  match Document.read viewer.palettes text with
  | .ok document => ⟨.ok document, [], { viewer with document := some document }, false⟩
  | .error error => ⟨.error (.read error), [], viewer, false⟩

/-- Draws the document again, from the start when `full`. -/
def redraw (viewer : Viewer ι) (fits : Nat → Nat → Bool) (full : Bool) : Result ι Unit :=
  match viewer.document with
  | none => ⟨.error .noDocument, [], viewer, false⟩
  | some document =>
    let outcome := viewer.drawing.pass fits document viewer.palettes full
    let value := match outcome.error with
      | some error => .error (.draw error)
      | none => .ok ()
    ⟨value, outcome.ops, { viewer with drawing := outcome.drawing }, outcome.endless⟩

/-- Replaces the document and draws it. -/
def load (viewer : Viewer ι) (fits : Nat → Nat → Bool) (text : String) : Result ι Unit :=
  let parsed := viewer.parse text
  match parsed.value with
  | .ok _ => parsed.viewer.redraw fits true
  | .error error => ⟨.error error, [], viewer, false⟩

def setScale (viewer : Viewer ι) (scale : Float) : Viewer ι :=
  { viewer with drawing := viewer.drawing.setScale scale }

def setImageBase (viewer : Viewer ι) (base : String) : Viewer ι :=
  { viewer with drawing := viewer.drawing.setImageBase base }

/-- Adds colors to a scheme; they count for what is parsed and drawn from now on. -/
def registerPalette (viewer : Viewer ι) (scheme : String) (entries : List (String × String)) :
    Viewer ι :=
  { viewer with palettes := viewer.palettes.register scheme entries }

/-- The images first needed since the last time. -/
def takeRequests (viewer : Viewer ι) : List ImageRequest × Viewer ι :=
  let (requests, images) := viewer.drawing.images.takeRequests
  (requests, { viewer with drawing := { viewer.drawing with images } })

/-- Hands in the outcome of loading an image. The flag says that it was the last one pending, and
the document has been painted again. -/
def finishImage (viewer : Viewer ι) (fits : Nat → Nat → Bool) (source : String)
    (outcome : Option ι) : Result ι Bool :=
  let (last, images) := viewer.drawing.images.finish source outcome
  let viewer := { viewer with drawing := { viewer.drawing with images } }
  if last then
    let painted := viewer.redraw fits false
    ⟨painted.value.map fun _ => true, painted.ops, painted.viewer, painted.endless⟩
  else ⟨.ok false, [], viewer, false⟩

/-- The reports of reading the document, then those of the last pass. -/
def diagnostics (viewer : Viewer ι) : List Diagnostic :=
  (viewer.document.map Document.diagnostics).getD [] ++ viewer.drawing.diagnostics

def entityAt? (viewer : Viewer ι) (x y : Float) : Option EntityRef :=
  viewer.drawing.overlay.entityAt? x y

def box? (viewer : Viewer ι) (entity : EntityRef) : Option (Rect Float) :=
  viewer.drawing.boxes.get? entity

end Viewer
end XdotViewer
