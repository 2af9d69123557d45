import XdotViewer.Drawing

/-! # Repaints and full passes

A full pass that finds a seed for every entity paints what a repaint paints. The canvas is resized
first, and regions and texts are laid out besides; the repaint leaves both as they are. Both come to
an end or neither does.
-/

namespace XdotViewer
namespace Setting

variable {ι : Type} {setting : Setting ι}

/-- Without an error every entity is drawn, and as it is drawn in a repaint. -/
theorem traces_drawEntities {entities : List EntityRef}
    (seeded : (setting.drawEntities entities).2 = none) :
    (setting.drawEntities entities).1.map EntityDrawing.trace =
      entities.map setting.drawEntity := by
  induction entities with
  | nil => rfl
  | cons entity rest ih =>
    cases found : setting.seed entity with
    | error error => simp [drawEntities, found] at seeded
    | ok seed =>
      simp only [drawEntities, found] at seeded ⊢
      simp only [List.map_cons, ih seeded]

/-- A full pass that finds all seeds paints what a repaint paints, on a resized canvas. -/
theorem trace_fullPass (seeded : setting.fullPass.error = none) :
    setting.fullPass.trace =
      { setting.repaint with
        ops := .resize setting.canvasSize.1 setting.canvasSize.2 :: setting.repaint.ops } := by
  have painted := traces_drawEntities seeded
  simp only [fullPass, repaint, painted]

end Setting

namespace Drawing

variable {ι : Type} {drawing : Drawing ι} {fits : Nat → Nat → Bool} {document : Document}
  {palettes : Palettes}

/-- A full pass without an error has a canvas of its size and a seed for every entity. -/
theorem draw_of_error_eq_none (done : (drawing.draw fits document palettes).error = none) :
    let pass := (drawing.setting document palettes).fullPass
    pass.error = none ∧ drawing.draw fits document palettes =
      ⟨none, pass.trace.ops,
        { drawing.needImages pass.trace with overlay := pass.overlay, boxes := pass.boxes },
        pass.trace.endless⟩ := by
  unfold draw at done ⊢
  simp only at done ⊢
  split at done
  · rename_i fitting
    rw [if_pos fitting]
    have seeded := Option.map_eq_none_iff.mp done
    exact ⟨seeded, by rw [seeded, Option.map_none]⟩
  · cases done

/-- A repaint returns no error and keeps overlay and boxes. A full pass that returns no error either
paints the same on a canvas of the right size, with the same reports and the same need for images,
and it comes to an end exactly if the repaint does. -/
theorem pass_full_eq_repaint (drawing : Drawing ι) (fits : Nat → Nat → Bool)
    (document : Document) (palettes : Palettes) :
    let again := drawing.pass fits document palettes false
    let full := drawing.pass fits document palettes true
    let size := drawing.canvasSize document
    ((∀ error, again.Returns error → error = none) ∧
      again.error = none ∧ again.drawing.overlay = drawing.overlay ∧
      again.drawing.boxes = drawing.boxes) ∧
    (full.error = none →
      full.endless = again.endless ∧
      full.ops = .resize size.1 size.2 :: again.ops ∧
      full.drawing.diagnostics = again.drawing.diagnostics ∧
      full.drawing.images = again.drawing.images) := by
  refine ⟨⟨fun error returned => returned.2.symm, rfl, rfl, rfl⟩, fun done => ?_⟩
  obtain ⟨seeded, outcome⟩ := draw_of_error_eq_none done
  have painted := Setting.trace_fullPass seeded
  simp only [pass, if_true, outcome, painted]
  exact ⟨rfl, rfl, rfl, rfl⟩

/-- A graph whose script draws a ring in red dashes and asks for an image. -/
def ringDocument : Document where
  scene := ((Scene.new "ring" false .directed).insertAttr (.own (.graph Scene.root)) "bb"
    "0,0,72,72").insertDrawAttr (.graph Scene.root) "_draw_"
      "c 3 -red S 6 -dashed E 36 36 18 18 I 1 2 3 4 5 -a.png"
  metadata := {}
  diagnostics := []

/-- A dashed ring with an image that is not there yet. -/
theorem pass_full_eq_repaint_ring :
    let drawing : Drawing Unit := .new {}
    let again := drawing.pass (fun _ _ => true) ringDocument .minimal false
    let full := drawing.pass (fun _ _ => true) ringDocument .minimal true
    let size := drawing.canvasSize ringDocument
    full.error = none ∧ full.endless = again.endless ∧
      full.ops = .resize size.1 size.2 :: again.ops ∧
      full.drawing.diagnostics = again.drawing.diagnostics ∧
      full.drawing.images = again.drawing.images := by
  have done : ((Drawing.new {} : Drawing Unit).pass (fun _ _ => true) ringDocument .minimal
      true).error = none := Option.isNone_iff_eq_none.mp (by decide +kernel)
  exact ⟨done, (pass_full_eq_repaint _ _ _ _).2 done⟩

end Drawing
end XdotViewer
