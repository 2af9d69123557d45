import XdotViewer.Canvas.Painting
import XdotViewer.Drawing.Setting
import XdotViewer.Geometry.Spline
import XdotViewer.Overlay
import XdotViewer.Scene.Escape
import XdotViewer.Script

/-! # Drawing a script

A script is drawn as a block of its own: it begins with a fresh pen and restores the canvas at its
end. What it leaves behind is a trace, and traces are joined in the order of drawing. A stroke that
comes to no end makes its trace, and every trace that it is part of, an endless one.
-/

namespace XdotViewer

/-- What drawing leaves behind. Of an endless trace nobody sees the end: it is what there would be
with the endless strokes left out. -/
structure Trace (ι : Type) where
  ops : List (DrawOp ι)
  texts : List TextElement
  diagnostics : List Diagnostic
  /-- The image sources that were needed. -/
  sources : List String
  /-- The boxes of the paths that were painted. -/
  boxes : List (Rect Float)
  /-- Whether there is a stroke that never comes to an end. What follows it is never reached. -/
  endless : Bool

namespace Trace

variable {ι : Type}

def empty : Trace ι :=
  ⟨[], [], [], [], [], false⟩

instance : EmptyCollection (Trace ι) := ⟨empty⟩

instance : Append (Trace ι) where
  append a b := ⟨a.ops ++ b.ops, a.texts ++ b.texts, a.diagnostics ++ b.diagnostics,
    a.sources ++ b.sources, a.boxes ++ b.boxes, a.endless || b.endless⟩

def ofOps (ops : List (DrawOp ι)) : Trace ι :=
  { (∅ : Trace ι) with ops }

def ofDiagnostics (diagnostics : List Diagnostic) : Trace ι :=
  { (∅ : Trace ι) with diagnostics }

def join (traces : List (Trace ι)) : Trace ι :=
  traces.foldr (· ++ ·) ∅

@[simp] theorem ops_append (a b : Trace ι) : (a ++ b).ops = a.ops ++ b.ops := rfl

@[simp] theorem diagnostics_append (a b : Trace ι) :
    (a ++ b).diagnostics = a.diagnostics ++ b.diagnostics := rfl

@[simp] theorem endless_append (a b : Trace ι) : (a ++ b).endless = (a.endless || b.endless) := rfl

end Trace

/-- What instructions set for those after them. -/
structure ScriptState where
  pen : Pen := {}
  line : LineType := .solid
  fontSize : Float := 14.0
  fontFamily : String := "serif"

/-- The generic family of the fonts that drawings name by default. -/
def genericFamily (family : String) : String :=
  match family with
  | "Times-Roman" => "serif"
  | "Courier" => "monospace"
  | "Helvetica" => "sans-serif"
  | other => other

/-- The events that a link may carry code for. -/
def eventNames : List String :=
  ["onclick", "onmousedown", "onmouseup", "onmouseover", "onmousemove", "onmouseout"]

namespace Setting

variable {ι : Type}

/-- An attribute of an entity with its escape sequences replaced, unless it is empty. -/
def filledAttr? (setting : Setting ι) (entity : EntityRef) (name : String) : Option String :=
  (setting.scene.attrExpanded? entity name).filter fun value => !value.isEmpty

/-- The link that an entity asks for. -/
def link? (setting : Setting ι) (entity : EntityRef) : Option Link :=
  let attr := setting.filledAttr? entity
  (attr "URL" <|> attr "href").map fun href =>
    { href
      target := (attr "target").getD "_self"
      title := attr "tooltip" <|> attr "label"
      events := .ofList
        (eventNames.filterMap fun name => (attr name).map fun value => (name, value)) }

/-- The text element of a text instruction. -/
def textElement (setting : Setting ι) (entity : EntityRef) (state : ScriptState)
    (anchor : Point Float) (align width : Float) (text : String) : TextElement :=
  let zoom := setting.zoom
  let padding := setting.options.padding
  let height := setting.document.metadata.height
  let align := TextAlign.ofNumber align
  let left := roundHalfAway (zoom * anchor.x + padding)
  let top := roundHalfAway
    (zoom * height + 2.0 * padding - (zoom * (anchor.y + state.fontSize) + padding))
  let width := roundHalfAway (zoom * width)
  { entity, text, align
    left := int64OfFloat (left - (1.0 + Float.ofInt align.sign) * width)
    top := int64OfFloat top
    width := int64OfFloat (2.0 * width)
    fontSize := int64OfFloat (roundHalfAway (state.fontSize * zoom))
    fontFamily := state.fontFamily
    color := state.pen.stroke.text
    opacity := state.pen.stroke.opacity
    link := setting.link? entity }

def pathStyle (setting : Setting ι) (state : ScriptState) (fill : Bool) : PathStyle :=
  { fill
    line := state.line
    dashLength := setting.options.dashLength
    dotSpacing := setting.options.dotSpacing }

/-- Paints a path. -/
def drawPath (setting : Setting ι) (state : ScriptState) (fill : Bool) (path : Path Float) :
    Trace ι :=
  let style := setting.pathStyle state fill
  let stroke := strokePath? path style state.pen
  { (∅ : Trace ι) with
    ops := beforeStroke path style ++ stroke.getD []
    boxes := path.box?.toList
    endless := stroke.isNone }

/-- Shows an image as far as it is loaded. -/
def drawImage (setting : Setting ι) (source : String) (left top width height : Float) :
    Trace ι :=
  let shown : Trace ι := match setting.images source with
    | .pending => ∅
    | .loaded picture => .ofOps [.image picture left top width height]
    | .failed =>
      { (∅ : Trace ι) with
        ops := paintMissingImage left top width height
        diagnostics := [.failedImage source] }
  { shown with sources := [source] }

def resolveColor (setting : Setting ι) (entity : EntityRef) (literal : String) :
    Color × List Diagnostic :=
  setting.palettes.resolve literal (setting.scene.attr? entity "colorscheme")

/-- The effect of an instruction on what follows, and its trace. -/
def execute (setting : Setting ι) (entity : EntityRef) (state : ScriptState) :
    Instruction → ScriptState × Trace ι
  | .ellipse filled center rx ry =>
    let shape : Shape Float := .ellipse ⟨center.x, setting.flip center.y, rx, ry⟩
    (state, setting.drawPath state filled (.ofShape shape))
  | .polygon filled points =>
    let shape : Shape Float := .polygon (points.map setting.flipPoint)
    (state, setting.drawPath state filled (.ofShape shape))
  | .polyline points =>
    let shape : Shape Float := .segments (linesBetween (points.map setting.flipPoint))
    (state, setting.drawPath state false (.ofShape shape))
  | .spline filled points =>
    let controls := points.map setting.flipPoint
    let shape : Shape Float := .segments (splineSegments controls)
    let dropped := if hasPartialSegment controls then
        [Diagnostic.droppedSpline (setting.scene.nameOf entity) points.length]
      else []
    (state, .ofDiagnostics dropped ++ setting.drawPath state filled (.ofShape shape))
  | .image corner width height source =>
    (state, setting.drawImage source corner.x (setting.flip corner.y - height) width height)
  | .text anchor align width text =>
    let texts := if trim text.toList = [] then []
      else [setting.textElement entity state anchor align width text]
    (state, { (∅ : Trace ι) with texts })
  | .fillColor literal =>
    let (color, diagnostics) := setting.resolveColor entity literal
    ({ state with pen := { state.pen with fill := color } },
      { Trace.ofOps [.fillColor color] with diagnostics })
  | .strokeColor literal =>
    let (color, diagnostics) := setting.resolveColor entity literal
    ({ state with pen := { state.pen with stroke := color } },
      { Trace.ofOps [.strokeColor color] with diagnostics })
  | .font size family =>
    ({ state with fontSize := size, fontFamily := genericFamily family }, ∅)
  | .style .plain => (state, ∅)
  | .style .dashed => ({ state with line := .dashed }, ∅)
  | .style .dotted => ({ state with line := .dotted }, ∅)
  | .style (.width width) =>
    ({ state with pen := { state.pen with width } }, .ofOps [.lineWidth width])

def executeAll (setting : Setting ι) (entity : EntityRef) :
    ScriptState → List Instruction → Trace ι
  | _, [] => ∅
  | state, instruction :: rest =>
    let (state, trace) := setting.execute entity state instruction
    trace ++ setting.executeAll entity state rest

def faultDiagnostic (name : String) : Fault → Diagnostic
  | .missingOperand op => .missingOperand (String.ofList [op.letter]) name
  | .unknownStyle style => .unknownStyle style name
  | .unknownOp word => .unknownOp word name

/-- The operations that set up a pen. -/
def penOps (pen : Pen) : List (DrawOp ι) :=
  [.fillColor pen.fill, .strokeColor pen.stroke, .lineWidth pen.width]

/-- The trace of a script; a script that says nothing leaves nothing. -/
def block (setting : Setting ι) (entity : EntityRef) (text : String) : Trace ι :=
  let script := Script.read text
  if script.isEmpty then ∅
  else
    let fault := script.fault.toList.map (faultDiagnostic (setting.scene.nameOf entity))
    .ofOps (.save :: penOps {}) ++ setting.executeAll entity {} script.instructions ++
      .ofDiagnostics fault ++ .ofOps [.restore]

/-- The trace of all scripts of an entity. -/
def drawEntity (setting : Setting ι) (entity : EntityRef) : Trace ι :=
  match setting.scene.entity? entity with
  | some data => .join (data.drawAttrs.entries.map fun attr => setting.block entity attr.2)
  | none => ∅

end Setting
end XdotViewer
