import XdotViewer.Proofs.Drawing.CanvasSize
import XdotViewer.Proofs.Drawing.History
import XdotViewer.Viewer

/-! # Sessions

In a session a viewer goes through actions on a canvas that takes every size. Every pass clears the
canvas over the size that document and scale give it at that time, but the canvas is resized, and
the overlay laid out, by full passes only. After a repaint at another size the three sizes differ;
they agree as long as no repaint is made at another size than the last full pass.
-/

namespace XdotViewer
namespace Viewer

open Drawing

variable {ι : Type}

inductive Action (ι : Type) where
  | load (text : String)
  | parse (text : String)
  | redraw (full : Bool)
  | setScale (scale : Float)
  | setImageBase (base : String)
  | registerPalette (scheme : String) (entries : List (String × String))
  | takeRequests
  | finishImage (source : String) (outcome : Option ι)

/-- What an action does; it answers whether it has drawn. -/
def act (viewer : Viewer ι) : Action ι → Result ι Bool
  | .load text =>
    let result := viewer.load takesAll text
    ⟨result.value.map fun _ => true, result.ops, result.viewer, result.endless⟩
  | .parse text =>
    let result := viewer.parse text
    ⟨result.value.map fun _ => false, result.ops, result.viewer, result.endless⟩
  | .redraw full =>
    let result := viewer.redraw takesAll full
    ⟨result.value.map fun _ => true, result.ops, result.viewer, result.endless⟩
  | .setScale scale => ⟨.ok false, [], viewer.setScale scale, false⟩
  | .setImageBase base => ⟨.ok false, [], viewer.setImageBase base, false⟩
  | .registerPalette scheme entries =>
    ⟨.ok false, [], viewer.registerPalette scheme entries, false⟩
  | .takeRequests => ⟨.ok false, [], viewer.takeRequests.2, false⟩
  | .finishImage source outcome => viewer.finishImage takesAll source outcome

/-- What comes out of several actions. -/
structure Session (ι : Type) where
  answers : List (Except ViewerError Bool)
  ops : List (DrawOp ι)
  viewer : Viewer ι

def session : Viewer ι → List (Action ι) → Session ι
  | viewer, [] => ⟨[], [], viewer⟩
  | viewer, action :: rest =>
    let result := viewer.act action
    let later := session result.viewer rest
    ⟨result.value :: later.answers, result.ops ++ later.ops, later.viewer⟩

def overlaySize (viewer : Viewer ι) : Nat × Nat :=
  (viewer.drawing.overlay.width, viewer.drawing.overlay.height)

/-- A pass, with what decides the size of its canvas. -/
structure PassMade where
  full : Bool
  document : Document
  scale : Float

/-- The size of the canvas for a pass of a viewer with these options but for the scale. -/
def PassMade.size (options : Options) (made : PassMade) : Nat × Nat :=
  (Drawing.new { options with scale := made.scale } : Drawing Unit).canvasSize made.document

/-- The pass that drawing makes, if there is a document. -/
def nextPass? (viewer : Viewer ι) (full : Bool) : Option PassMade :=
  viewer.document.map fun document => ⟨full, document, viewer.drawing.options.scale⟩

/-- The pass that an action makes. -/
def pass? (viewer : Viewer ι) : Action ι → Option PassMade
  | .load text =>
    let parsed := viewer.parse text
    match parsed.value with
    | .ok _ => parsed.viewer.nextPass? true
    | .error _ => none
  | .redraw full => viewer.nextPass? full
  | .finishImage source outcome =>
    if (viewer.drawing.images.finish source outcome).1 then viewer.nextPass? false else none
  | _ => none

def passes : Viewer ι → List (Action ι) → List PassMade
  | _, [] => []
  | viewer, action :: rest => (viewer.pass? action).toList ++ passes (viewer.act action).viewer rest

def lastFull? (made : List PassMade) : Option PassMade :=
  (made.filter PassMade.full).getLast?

private theorem lastFull?_append (first second : List PassMade) :
    lastFull? (first ++ second) = (lastFull? second).or (lastFull? first) := by
  rw [lastFull?, List.filter_append, List.getLast?_append]
  rfl

/-- Passes account for operations, and for what has become of a viewer with some options. -/
structure Accounts (options : Options) (made : List PassMade) (before : Viewer ι)
    (ops : List (DrawOp ι)) (after : Viewer ι) : Prop where
  resized : lastOf? DrawOp.resized? ops = (lastFull? made).map (PassMade.size options)
  cleared : lastOf? DrawOp.cleared? ops = made.getLast?.map fun pass => extentOf (pass.size options)
  laidOut : after.overlaySize =
    ((lastFull? made).map (PassMade.size options)).getD before.overlaySize
  padding : after.drawing.options.padding = before.drawing.options.padding

namespace Accounts

variable {options : Options} {first second : List PassMade} {ops more : List (DrawOp ι)}
  {before between after : Viewer ι}

/-- Where no pass is made, nothing is painted and the overlay stays. -/
theorem silent (same : after.overlaySize = before.overlaySize)
    (padding : after.drawing.options.padding = before.drawing.options.padding) :
    Accounts options [] before [] after :=
  ⟨rfl, rfl, same, padding⟩

private theorem append (left : Accounts options first before ops between)
    (right : Accounts options second between more after) :
    Accounts options (first ++ second) before (ops ++ more) after where
  resized := by
    rw [lastOf?_append, lastFull?_append, left.resized, right.resized, Option.map_or]
  cleared := by
    rw [lastOf?_append, List.getLast?_append, left.cleared, right.cleared, Option.map_or]
  laidOut := by
    rw [lastFull?_append, right.laidOut, left.laidOut]
    cases lastFull? second <;> rfl
  padding := right.padding.trans left.padding

end Accounts

section Steps

variable {options : Options} {viewer : Viewer ι}

/-- The size of the canvas depends on the options by padding and scale only. -/
theorem canvasSize_eq (padding : viewer.drawing.options.padding = options.padding)
    (document : Document) (full : Bool) : viewer.drawing.canvasSize document =
      PassMade.size options ⟨full, document, viewer.drawing.options.scale⟩ := by
  simp only [PassMade.size, canvasSize, Setting.canvasSize, Setting.pixels, Setting.zoom, setting,
    Drawing.new, padding]

private theorem accounts_redraw (padding : viewer.drawing.options.padding = options.padding)
    (full : Bool) : Accounts options (viewer.nextPass? full).toList viewer
      (viewer.redraw takesAll full).ops (viewer.redraw takesAll full).viewer := by
  unfold nextPass? redraw
  cases viewer.document with
  | none => exact .silent rfl rfl
  | some document =>
    have size := canvasSize_eq padding document full
    refine ⟨?_, ?_, ?_, ?_⟩
    · rw [resized?_pass, size]
      cases full <;> rfl
    · rw [cleared?_pass, size]
      rfl
    · cases full with
      | false => rfl
      | true => exact size
    · exact congrArg Options.padding (options_pass _ _ _ _ _)

private theorem accounts_act (padding : viewer.drawing.options.padding = options.padding)
    (action : Action ι) : Accounts options (viewer.pass? action).toList viewer
      (viewer.act action).ops (viewer.act action).viewer := by
  cases action with
  | load text =>
    -- a new document changes neither the options nor the overlay
    simp only [pass?, act, load, parse]
    cases Document.read viewer.palettes text with
    | error error => exact .silent rfl rfl
    | ok document =>
      let parsed : Viewer ι := { viewer with document := some document }
      have same : parsed.drawing.options.padding = options.padding := padding
      have drawn := accounts_redraw same true
      exact ⟨drawn.resized, drawn.cleared, drawn.laidOut, drawn.padding⟩
  | parse text =>
    simp only [pass?, act, parse]
    cases Document.read viewer.palettes text with
    | error error => exact .silent rfl rfl
    | ok document => exact .silent rfl rfl
  | redraw full => exact accounts_redraw padding full
  | setScale scale => exact .silent rfl rfl
  | setImageBase base => exact .silent rfl rfl
  | registerPalette scheme entries => exact .silent rfl rfl
  | takeRequests => exact .silent rfl rfl
  | finishImage source outcome =>
    simp only [pass?, act, finishImage]
    cases (viewer.drawing.images.finish source outcome).1 with
    | false => exact .silent rfl rfl
    | true =>
      let noted : Viewer ι := { viewer with drawing := { viewer.drawing with
        images := (viewer.drawing.images.finish source outcome).2 } }
      have same : noted.drawing.options.padding = options.padding := padding
      have drawn := accounts_redraw same false
      exact ⟨drawn.resized, drawn.cleared, drawn.laidOut, drawn.padding⟩

private theorem accounts_session (padding : viewer.drawing.options.padding = options.padding)
    (actions : List (Action ι)) : Accounts options (viewer.passes actions) viewer
      (viewer.session actions).ops (viewer.session actions).viewer := by
  induction actions generalizing viewer with
  | nil => exact .silent rfl rfl
  | cons action rest ih =>
    have here := accounts_act padding action
    exact here.append (ih (here.padding.trans padding))

end Steps

/-- Once a full pass has been made, the canvas has been resized to the size that document and scale
gave it then, and the overlay has this size. What was cleared last is the canvas of the last pass:
its size is the same if that pass had the same size, so if it had the same document and scale. -/
theorem sizes_session (options : Options) (actions : List (Action ι)) {full : PassMade}
    (drawn : lastFull? ((Viewer.new options : Viewer ι).passes actions) = some full) :
    let session := (Viewer.new options : Viewer ι).session actions
    let size := full.size options
    lastOf? DrawOp.resized? session.ops = some size ∧
      session.viewer.overlaySize = size ∧
      ∃ last, ((Viewer.new options : Viewer ι).passes actions).getLast? = some last ∧
        lastOf? DrawOp.cleared? session.ops = some (extentOf (last.size options)) ∧
        (last.document = full.document ∧ last.scale = full.scale ∨ last.size options = size →
          lastOf? DrawOp.cleared? session.ops = some (extentOf size)) := by
  intro session size
  have padding : (Viewer.new options : Viewer ι).drawing.options.padding = options.padding := rfl
  have accounts := accounts_session padding actions
  have laidOut : session.viewer.overlaySize = size := by
    rw [accounts.laidOut, drawn, Option.map_some, Option.getD_some]
  have resized : lastOf? DrawOp.resized? session.ops = some size := by
    rw [accounts.resized, drawn, Option.map_some]
  have made : (Viewer.new options : Viewer ι).passes actions ≠ [] := by
    intro none
    rw [none] at drawn
    cases drawn
  have latest := List.getLast?_eq_some_getLast made
  have cleared := accounts.cleared
  rw [latest, Option.map_some] at cleared
  refine ⟨resized, laidOut, _, latest, cleared, ?_⟩
  rintro (⟨document, scale⟩ | same)
  · rw [cleared, PassMade.size, document, scale]
    rfl
  · rw [cleared, same]

/-- The repaint after the last image is made at the scale of the full pass. -/
theorem sizes_session_lastImage :
    let actions : List (Action Unit) :=
      [.load "digraph G \x7b bb=\"0,0,72,72\"; _draw_=\"I 0 0 9 9 1 -a\" \x7d", .takeRequests,
        .finishImage "a" none]
    let session := (Viewer.new {}).session actions
    session.answers.map Except.toOption = [some true, some false, some true] ∧
      ∃ full, lastFull? ((Viewer.new {}).passes actions) = some full ∧
        lastOf? DrawOp.resized? session.ops = some (full.size {}) ∧
        session.viewer.overlaySize = full.size {} ∧
        lastOf? DrawOp.cleared? session.ops = some (extentOf (full.size {})) := by
  intro actions session
  have answers : session.answers.map Except.toOption = [some true, some false, some true] := by
    decide +kernel
  have first : (lastFull? ((Viewer.new {}).passes actions)).map (PassMade.size {}) =
      some (112, 112) := by decide +kernel
  have second : ((Viewer.new {}).passes actions).getLast?.map (PassMade.size {}) =
      some (112, 112) := by decide +kernel
  obtain ⟨full, drawn, size⟩ := Option.map_eq_some_iff.mp first
  obtain ⟨resized, laidOut, last, latest, -, agrees⟩ := sizes_session {} actions drawn
  rw [latest, Option.map_some, Option.some_inj, ← size] at second
  exact ⟨answers, full, drawn, resized, laidOut, agrees (.inr second)⟩

/-- A repaint at another scale clears another extent than the canvas and the overlay have. -/
theorem not_sizes_agree_rescaled :
    let actions : List (Action Unit) :=
      [.load "digraph G \x7b bb=\"0,0,72,72\" \x7d", .setScale 2.0, .redraw false]
    let session := (Viewer.new {}).session actions
    session.answers.map Except.toOption = [some true, some false, some true] ∧
      ¬ ∃ size, lastOf? DrawOp.resized? session.ops = some size ∧
        lastOf? DrawOp.cleared? session.ops = some (extentOf size) ∧
        session.viewer.overlaySize = size := by
  intro actions session
  have canvas : lastOf? DrawOp.resized? session.ops = some (112, 112) := by decide +kernel
  have wider : (lastOf? DrawOp.cleared? session.ops).map
      (fun extent => extent.1 == Float.ofNat 112) = some false := by decide +kernel
  refine ⟨by decide +kernel, ?_⟩
  rintro ⟨size, resized, cleared, -⟩
  obtain rfl := Option.some.inj (resized.symm.trans canvas)
  rw [cleared] at wider
  exact absurd wider (by decide +kernel)

end Viewer
end XdotViewer
