import XdotViewer.Proofs.Drawing.Repaint
import XdotViewer.Proofs.Images.Requests

/-! # Passes and what came before them

A pass looks at the options of its drawing and at how far the images are, and it changes neither. So
whatever has been drawn before, and whether that worked or not, a full pass gives the same results,
and doing it again at once changes nothing.
-/

namespace XdotViewer.Drawing

variable {ι : Type} {a b c : Drawing ι}

/-- Drawings that passes cannot tell apart: the options are the same, and so is the state of every
image source. -/
structure Alike (a b : Drawing ι) : Prop where
  options : b.options = a.options
  states : ∀ source, b.images.state source = a.images.state source

private theorem Alike.refl (drawing : Drawing ι) : drawing.Alike drawing :=
  ⟨rfl, fun _ => rfl⟩

private theorem Alike.symm (alike : a.Alike b) : b.Alike a :=
  ⟨alike.options.symm, fun source => (alike.states source).symm⟩

private theorem Alike.trans (first : a.Alike b) (second : b.Alike c) : a.Alike c :=
  ⟨second.options.trans first.options,
    fun source => (second.states source).trans (first.states source)⟩

private theorem Alike.setting_eq (alike : a.Alike b) (document : Document) (palettes : Palettes) :
    b.setting document palettes = a.setting document palettes := by
  simp only [setting, alike.options, funext alike.states]

private theorem Alike.canvasSize_eq (alike : a.Alike b) (document : Document) :
    b.canvasSize document = a.canvasSize document := by
  rw [canvasSize, alike.setting_eq, canvasSize]

section Pass

variable (drawing : Drawing ι) (fits : Nat → Nat → Bool) (document : Document)
  (palettes : Palettes) (full : Bool)

/-- A pass keeps the options. -/
theorem options_pass :
    (drawing.pass fits document palettes full).drawing.options = drawing.options := by
  cases full with
  | false => rfl
  | true =>
    simp only [pass, if_true, draw]
    split <;> rfl

/-- A pass asks for images and does nothing else to the registry. -/
theorem exists_images_pass :
    ∃ sources, (drawing.pass fits document palettes full).drawing.images =
      drawing.images.requestAll sources := by
  cases full with
  | false => exact ⟨(drawing.setting document palettes).repaint.sources, rfl⟩
  | true =>
    simp only [pass, if_true, draw]
    split
    · exact ⟨(drawing.setting document palettes).fullPass.trace.sources, rfl⟩
    · exact ⟨[], rfl⟩

/-- A pass changes nothing that passes look at. -/
theorem alike_pass : drawing.Alike (drawing.pass fits document palettes full).drawing := by
  obtain ⟨sources, images⟩ := drawing.exists_images_pass fits document palettes full
  refine ⟨drawing.options_pass fits document palettes full, fun source => ?_⟩
  rw [images, Images.state_requestAll]

end Pass

/-- A pass that a drawing has been asked for. -/
structure PassCall where
  fits : Nat → Nat → Bool
  document : Document
  palettes : Palettes
  full : Bool

/-- The drawing after some passes, failed ones too. -/
def afterPasses (drawing : Drawing ι) (calls : List PassCall) : Drawing ι :=
  calls.foldl (fun drawing call =>
    (drawing.pass call.fits call.document call.palettes call.full).drawing) drawing

private theorem alike_afterPasses (drawing : Drawing ι) (calls : List PassCall) :
    drawing.Alike (drawing.afterPasses calls) := by
  induction calls generalizing drawing with
  | nil => exact .refl drawing
  | cons call rest ih => exact (drawing.alike_pass _ _ _ _).trans (ih _)

section FullPass

variable {drawing other : Drawing ι} (fits : Nat → Nat → Bool) (document : Document)
  (palettes : Palettes)

private theorem Alike.draw_of_fits (alike : drawing.Alike other)
    (takes : fits (drawing.canvasSize document).1 (drawing.canvasSize document).2 = true) :
    let first := drawing.draw fits document palettes
    let second := other.draw fits document palettes
    second.error = first.error ∧ second.ops = first.ops ∧
      second.drawing.overlay = first.drawing.overlay ∧
      second.drawing.boxes = first.drawing.boxes ∧
      second.drawing.diagnostics = first.drawing.diagnostics := by
  intro first second
  have size := alike.canvasSize_eq document
  have drawn : first = _ := Drawing.draw_of_fits palettes takes
  have redrawn : second = _ := Drawing.draw_of_fits palettes (size ▸ takes)
  rw [drawn, redrawn, alike.setting_eq]
  exact ⟨rfl, rfl, rfl, rfl, rfl⟩

/-- On any canvas alike drawings have the same outcome. They may keep different boxes and overlays
of earlier passes if the canvas does not take its size. -/
theorem Alike.draw (alike : drawing.Alike other) :
    let first := drawing.draw fits document palettes
    let second := other.draw fits document palettes
    second.error = first.error ∧ second.ops = first.ops ∧
      second.drawing.diagnostics = first.drawing.diagnostics := by
  intro first second
  by_cases takes : fits (drawing.canvasSize document).1 (drawing.canvasSize document).2 = true
  · obtain ⟨error, ops, -, -, diagnostics⟩ := alike.draw_of_fits fits document palettes takes
    exact ⟨error, ops, diagnostics⟩
  · have size := alike.canvasSize_eq document
    have refused : first = _ := draw_of_not_fits palettes takes
    have refusedToo : second = _ := draw_of_not_fits palettes (size ▸ takes)
    rw [refused, refusedToo, size]
    exact ⟨rfl, rfl, rfl⟩

/-- The second time all images have been asked for. -/
theorem draw_draw (drawing : Drawing ι) :
    let once := drawing.draw fits document palettes
    once.drawing.draw fits document palettes = once := by
  intro once
  have alike : drawing.Alike once.drawing := drawing.alike_pass fits document palettes true
  have size := alike.canvasSize_eq document
  by_cases takes : fits (drawing.canvasSize document).1 (drawing.canvasSize document).2 = true
  · have drawn : once = _ := Drawing.draw_of_fits palettes takes
    have asked := drawing.images.requestAll_requestAll
      (drawing.setting document palettes).fullPass.trace.sources
    rw [Drawing.draw_of_fits palettes (size ▸ takes), alike.setting_eq, drawn]
    simp only [needImages, asked]
  · have refused : once = _ := draw_of_not_fits palettes takes
    rw [draw_of_not_fits palettes (size ▸ takes), size, refused]

/-- Two alike drawings, whatever passes they go through, get the same out of a full pass that
records its operations. On any canvas the pass ends alike for them, and when it is done again at
once, nothing changes: no image is asked for once more. -/
theorem pass_forgets_history (alike : drawing.Alike other) (earlier later : List PassCall) :
    let one := drawing.afterPasses earlier
    let two := other.afterPasses later
    let first := fun fits => one.pass fits document palettes true
    let second := fun fits => two.pass fits document palettes true
    let recording : Nat → Nat → Bool := fun _ _ => true
    ((second recording).error = (first recording).error ∧
      (second recording).ops = (first recording).ops ∧
      (second recording).drawing.overlay = (first recording).drawing.overlay ∧
      (second recording).drawing.boxes = (first recording).drawing.boxes ∧
      (second recording).drawing.diagnostics = (first recording).drawing.diagnostics) ∧
    ∀ fits : Nat → Nat → Bool,
      ((second fits).error = (first fits).error ∧ (second fits).ops = (first fits).ops ∧
        (second fits).drawing.diagnostics = (first fits).drawing.diagnostics) ∧
      (first fits).drawing.pass fits document palettes true = first fits := by
  intro one two first second recording
  have still : one.Alike two :=
    ((drawing.alike_afterPasses earlier).symm.trans alike).trans (other.alike_afterPasses later)
  constructor
  · exact still.draw_of_fits recording document palettes rfl
  · exact fun fits => ⟨still.draw fits document palettes, one.draw_draw fits document palettes⟩

end FullPass

/-- A new drawing, and one whose registry knows the image already and that has failed on a canvas
and drawn the ring before. -/
theorem pass_forgets_history_ring :
    let drawing : Drawing Unit := .new {}
    let other := { drawing with images := drawing.images.request "a.png" }
    let later : List PassCall := [⟨fun _ _ => false, ringDocument, .minimal, true⟩,
      ⟨fun _ _ => true, ringDocument, .minimal, true⟩]
    let two := other.afterPasses later
    let first := drawing.pass (fun _ _ => true) ringDocument .minimal true
    let second := two.pass (fun _ _ => true) ringDocument .minimal true
    drawing.Alike other ∧ two.images.queue ≠ drawing.images.queue ∧
      second.ops = first.ops ∧ second.drawing.overlay = first.drawing.overlay ∧
      second.drawing.boxes = first.drawing.boxes := by
  intro drawing other later two first second
  have alike : drawing.Alike other := ⟨rfl, drawing.images.state_request "a.png"⟩
  obtain ⟨⟨-, ops, overlay, boxes, -⟩, -⟩ :=
    pass_forgets_history ringDocument .minimal alike [] later
  exact ⟨alike, by decide +kernel, ops, overlay, boxes⟩

end XdotViewer.Drawing
