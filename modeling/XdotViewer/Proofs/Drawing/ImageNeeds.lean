import XdotViewer.Proofs.Drawing.Elements

/-! # The images that a pass needs

How far the images are decides what is painted for them and nothing else. A pass comes to the same
instructions, in the same states, so it needs the same images as before; and where all of them are
finished, each image instruction paints its picture or the sign for a missing one.
-/

namespace XdotViewer
namespace Setting

variable {ι : Type} (setting : Setting ι) (images : String → ImageState ι)

/-- The same pass with the images in other states. -/
def withImages (setting : Setting ι) (images : String → ImageState ι) : Setting ι :=
  { setting with images }

section States

variable (entity : EntityRef) (state : ScriptState)

/-- What an instruction sets for those after it does not depend on images. -/
theorem fst_execute_withImages (instruction : Instruction) :
    ((setting.withImages images).execute entity state instruction).1 =
      (setting.execute entity state instruction).1 := by
  cases instruction with
  | style style => cases style <;> rfl
  | _ => rfl

private theorem instructionStretches_withImages (instructions : List Instruction) :
    (setting.withImages images).instructionStretches entity state instructions =
      setting.instructionStretches entity state instructions := by
  induction instructions generalizing state with
  | nil => rfl
  | cons instruction rest ih =>
    rw [instructionStretches, instructionStretches, fst_execute_withImages, ih]

end States

private theorem stringStretches_withImages (string : DrawString) :
    (setting.withImages images).stringStretches string = setting.stringStretches string := by
  simp only [stringStretches, instructionStretches_withImages]

private theorem passStretches_withImages (full : Bool) (strings : List DrawString) :
    (setting.withImages images).passStretches full strings =
      setting.passStretches full strings := by
  simp only [passStretches, funext (setting.stringStretches_withImages images)]
  rfl

/-- A repaint needs the images of the image instructions to which it comes. -/
theorem sources_repaint : setting.repaint.sources =
    (setting.passStretches false setting.scene.drawStrings).filterMap neededSource? := by
  have picks := setting.picks_sources
  have blocks : setting.repaint.sources =
      (setting.scene.drawStrings.flatMap setting.stringStretches).filterMap neededSource? := by
    simp only [repaint, join_drawnEntities, picks.join, List.flatMap_map, picks.stringBlock,
      List.filterMap_flatMap]
  rw [blocks, passStretches]
  simp only [List.cons_append, List.filterMap_cons, List.filterMap_append, picks.frame,
    List.filterMap_nil, List.append_nil]

/-- What is painted for an image with this outcome. -/
def imageOps (setting : Setting ι) (corner : Point Float) (width height : Float) :
    Option ι → List (DrawOp ι)
  | some picture => [.image picture corner.x (setting.flip corner.y - height) width height]
  | none => paintMissingImage corner.x (setting.flip corner.y - height) width height

/-- For a finished image its outcome is painted. -/
theorem stretchOps_of_finished {setting : Setting ι} {source : String} {outcome : Option ι}
    (finished : setting.images source = .ofOutcome outcome) (entity : EntityRef)
    (state : ScriptState) (corner : Point Float) (width height : Float) :
    setting.stretchOps (.instruction entity state (.image corner width height source)) =
      setting.imageOps corner width height outcome := by
  simp only [stretchOps, execute, drawImage, finished]
  cases outcome <;> rfl

end Setting

namespace Drawing

variable {ι : Type} {drawing other : Drawing ι} {fits : Nat → Nat → Bool} {document : Document}
  {palettes : Palettes}

/-- A full pass without an error asks for the images that a repaint needs. -/
theorem images_pass_full (done : (drawing.pass fits document palettes true).error = none) :
    (drawing.pass fits document palettes true).drawing.images =
      drawing.images.requestAll (drawing.setting document palettes).repaint.sources := by
  obtain ⟨seeded, outcome⟩ := draw_of_error_eq_none done
  rw [pass, if_pos rfl, outcome, Setting.trace_fullPass seeded]
  rfl

/-- With the same options a drawing looks at the same, but for the images. -/
theorem setting_of_options (options : other.options = drawing.options) :
    other.setting document palettes =
      (drawing.setting document palettes).withImages other.images.state := by
  simp only [setting, Setting.withImages, options]

/-- A repaint comes to all draw strings. -/
theorem stretches_repaint : drawing.stretches fits document palettes false =
    (drawing.setting document palettes).passStretches false document.scene.drawStrings := by
  rw [stretches]
  exact if_neg Bool.false_ne_true

/-- With the same options a repaint comes to the same, however far the images are. -/
theorem stretches_of_options (options : other.options = drawing.options) :
    other.stretches fits document palettes false =
      drawing.stretches fits document palettes false := by
  rw [stretches_repaint, stretches_repaint, setting_of_options options,
    Setting.passStretches_withImages]

/-- A repaint needs the sources of the image instructions to which it comes. -/
theorem mem_sources_repaint (fits : Nat → Nat → Bool) {source : String} :
    source ∈ (drawing.setting document palettes).repaint.sources ↔
      ∃ stretch ∈ drawing.stretches fits document palettes false,
        Setting.neededSource? stretch = some source := by
  rw [Setting.sources_repaint, List.mem_filterMap, stretches_repaint, Setting.scene, setting]

end Drawing
end XdotViewer
