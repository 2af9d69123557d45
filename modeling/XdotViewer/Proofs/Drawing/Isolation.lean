import XdotViewer.Proofs.Drawing.Blocks
import XdotViewer.Proofs.Drawing.Repaint

/-! # Isolation of draw strings

A pass is a frame around the blocks of the draw strings. A block depends on its own string, on the
document apart from all draw strings, and on what the pass found when it began: no other string
reaches it, whatever it says.
-/

namespace XdotViewer

def Document.editStrings (edit : EntityRef → String → String → String) (document : Document) :
    Document :=
  { document with scene := document.scene.editStrings edit }

def Document.editDrawAttrs
    (edit : EntityRef → OrderedMap String String → OrderedMap String String)
    (document : Document) : Document :=
  { document with scene := document.scene.editDrawAttrs edit }

namespace Setting

variable {ι : Type} (setting : Setting ι)

def editStrings (edit : EntityRef → String → String → String) : Setting ι :=
  { setting with document := setting.document.editStrings edit }

def editDrawAttrs (edit : EntityRef → OrderedMap String String → OrderedMap String String) :
    Setting ι :=
  { setting with document := setting.document.editDrawAttrs edit }

section Edited

variable (edit : EntityRef → OrderedMap String String → OrderedMap String String)
  (entity : EntityRef)

private theorem scene_editDrawAttrs :
    (setting.editDrawAttrs edit).scene = setting.scene.editDrawAttrs edit := rfl

private theorem link?_editDrawAttrs :
    (setting.editDrawAttrs edit).link? entity = setting.link? entity := by
  simp only [link?, filledAttr?, scene_editDrawAttrs, Scene.attrExpanded?_editDrawAttrs]

/-- An instruction does the same whatever the draw attributes of the document are. -/
theorem execute_editDrawAttrs (state : ScriptState) (instruction : Instruction) :
    (setting.editDrawAttrs edit).execute entity state instruction =
      setting.execute entity state instruction := by
  have color (literal : String) : (setting.editDrawAttrs edit).resolveColor entity literal =
      setting.resolveColor entity literal := by
    simp only [resolveColor, scene_editDrawAttrs, Scene.attr?_editDrawAttrs]
    rfl
  have element (anchor : Point Float) (align width : Float) (text : String) :
      (setting.editDrawAttrs edit).textElement entity state anchor align width text =
        setting.textElement entity state anchor align width text := by
    simp only [textElement, link?_editDrawAttrs]
    rfl
  cases instruction with
  | ellipse filled center rx ry => rfl
  | polygon filled points => rfl
  | polyline points => rfl
  | spline filled points =>
    simp only [execute, scene_editDrawAttrs, Scene.nameOf_editDrawAttrs]
    rfl
  | image corner width height source => rfl
  | text anchor align width text => simp only [execute, element]
  | fillColor literal => simp only [execute, color]
  | strokeColor literal => simp only [execute, color]
  | font size family => rfl
  | style style => cases style <;> rfl

private theorem executeAll_editDrawAttrs (state : ScriptState) (instructions : List Instruction) :
    (setting.editDrawAttrs edit).executeAll entity state instructions =
      setting.executeAll entity state instructions := by
  induction instructions generalizing state with
  | nil => rfl
  | cons instruction rest ih => simp only [executeAll, execute_editDrawAttrs, ih]

/-- The block of a string is the same whatever the draw attributes of the document are. -/
theorem block_editDrawAttrs (text : String) :
    (setting.editDrawAttrs edit).block entity text = setting.block entity text := by
  simp only [block, executeAll_editDrawAttrs, scene_editDrawAttrs, Scene.nameOf_editDrawAttrs]

private theorem block_editStrings (edit : EntityRef → String → String → String) (entity : EntityRef)
    (text : String) : (setting.editStrings edit).block entity text = setting.block entity text :=
  setting.block_editDrawAttrs (Scene.editTexts edit) entity text

/-- Seeds do not depend on draw attributes. -/
theorem seed_editDrawAttrs : (setting.editDrawAttrs edit).seed entity = setting.seed entity := by
  simp only [seed, scene_editDrawAttrs, Scene.nameOf_editDrawAttrs, Scene.attr?_editDrawAttrs]
  rfl

/-- An edit that leaves no entity without draw attributes, and gives none its first ones, leaves the
entities that are drawn. -/
theorem drawnEntities_editDrawAttrs
    (kept : ∀ entity attrs, (edit entity attrs).isEmpty = attrs.isEmpty) :
    (setting.editDrawAttrs edit).drawnEntities = setting.drawnEntities := by
  have same : (setting.editDrawAttrs edit).hasScripts = setting.hasScripts := by
    funext entity
    rw [hasScripts, hasScripts, scene_editDrawAttrs, Scene.entity?_editDrawAttrs, Option.any_map]
    simp only [Entity.editDrawAttrs, kept]
  rw [drawnEntities, drawnEntities, same, scene_editDrawAttrs, Scene.drawOrder_editDrawAttrs]

/-- Whether every entity has a seed does not depend on draw attributes. -/
theorem error_drawEntities_editDrawAttrs (entities : List EntityRef) :
    ((setting.editDrawAttrs edit).drawEntities entities).2 =
      (setting.drawEntities entities).2 := by
  induction entities with
  | nil => rfl
  | cons entity rest ih =>
    simp only [drawEntities, seed_editDrawAttrs]
    split
    · rfl
    · exact ih

end Edited

/-- The operations of a pass with given blocks. -/
def passOps (full : Bool) (blocks : List (List (DrawOp ι))) : List (DrawOp ι) :=
  let (width, height) := setting.canvasSize
  let padding := setting.options.padding
  (if full then [.resize width height] else []) ++
    [.save, .lineCap .round,
      .clear setting.document.metadata.background (Float.ofNat width) (Float.ofNat height),
      .translate padding padding, .scale setting.zoom setting.zoom] ++
    blocks.flatten ++ [.restore]

/-- A repaint draws the blocks of all draw strings, in drawing order. -/
theorem repaint_eq_passOps : setting.repaint.ops =
    setting.passOps false
      (setting.scene.drawStrings.map fun string => (setting.stringBlock string).ops) := by
  simp only [repaint, join_drawnEntities, Trace.ops_join, List.flatMap_map]
  rfl

private theorem diagnostics_repaint : setting.repaint.diagnostics =
    setting.scene.drawStrings.flatMap fun string => (setting.stringBlock string).diagnostics := by
  simp only [repaint, join_drawnEntities, Trace.diagnostics_join, List.flatMap_map]

end Setting

namespace Drawing

variable {ι : Type} {drawing other : Drawing ι} {fits : Nat → Nat → Bool} {document : Document}
  {palettes : Palettes} {full : Bool}

/-- A pass that does not fail draws the blocks of all draw strings, in order. -/
theorem pass_of_error_eq_none (done : (drawing.pass fits document palettes full).error = none) :
    let setting := drawing.setting document palettes
    let outcome := drawing.pass fits document palettes full
    outcome.ops = setting.passOps full
        (document.scene.drawStrings.map fun string => (setting.stringBlock string).ops) ∧
      outcome.drawing.diagnostics =
        document.scene.drawStrings.flatMap fun string =>
          (setting.stringBlock string).diagnostics := by
  intro setting outcome
  have again : setting.repaint.ops = _ := setting.repaint_eq_passOps
  have reports : setting.repaint.diagnostics = _ := setting.diagnostics_repaint
  cases full with
  | false => exact ⟨again, reports⟩
  | true =>
    obtain ⟨seeded, result⟩ := draw_of_error_eq_none done
    have painted : setting.fullPass.trace = _ := Setting.trace_fullPass seeded
    have drawn : outcome = _ := result
    rw [drawn, painted]
    refine ⟨?_, reports⟩
    change .resize _ _ :: setting.repaint.ops = _
    rw [again]
    rfl

/-- With the same options and image states a drawing looks at the same, edited documents aside. -/
theorem setting_editDrawAttrs (options : other.options = drawing.options)
    (images : ∀ source, other.images.state source = drawing.images.state source)
    (edit : EntityRef → OrderedMap String String → OrderedMap String String) :
    other.setting (document.editDrawAttrs edit) palettes =
      (drawing.setting document palettes).editDrawAttrs edit := by
  simp only [setting, Setting.editDrawAttrs, options, funext images]

/-- A full pass fails for the size of its canvas, or for an entity without a seed. -/
theorem error_draw : (drawing.draw fits document palettes).error =
    let setting := drawing.setting document palettes
    if fits setting.canvasSize.1 setting.canvasSize.2 then
      (setting.drawEntities setting.drawnEntities).2.map .seed
    else some (.canvas setting.canvasSize.1 setting.canvasSize.2) := by
  unfold draw
  simp only
  split <;> rfl

private theorem error_repaint : (drawing.pass fits document palettes false).error = none := rfl

/-- Whether a pass fails does not depend on what the draw attributes are. -/
theorem error_pass_editDrawAttrs (options : other.options = drawing.options)
    (images : ∀ source, other.images.state source = drawing.images.state source)
    (edit : EntityRef → OrderedMap String String → OrderedMap String String)
    (kept : ∀ entity attrs, (edit entity attrs).isEmpty = attrs.isEmpty) :
    (other.pass fits (document.editDrawAttrs edit) palettes full).error =
      (drawing.pass fits document palettes full).error := by
  cases full with
  | false => rw [error_repaint, error_repaint]
  | true =>
    have size : ((drawing.setting document palettes).editDrawAttrs edit).canvasSize =
      (drawing.setting document palettes).canvasSize := rfl
    simp only [pass, if_true]
    rw [error_draw, error_draw, setting_editDrawAttrs options images]
    simp only [Setting.drawnEntities_editDrawAttrs _ _ kept,
      Setting.error_drawEntities_editDrawAttrs, size]

private theorem setting_editStrings (options : other.options = drawing.options)
    (images : ∀ source, other.images.state source = drawing.images.state source)
    (edit : EntityRef → String → String → String) :
    other.setting (document.editStrings edit) palettes =
      (drawing.setting document palettes).editStrings edit :=
  setting_editDrawAttrs options images (Scene.editTexts edit)

private theorem error_pass_editStrings (options : other.options = drawing.options)
    (images : ∀ source, other.images.state source = drawing.images.state source)
    (edit : EntityRef → String → String → String) :
    (other.pass fits (document.editStrings edit) palettes full).error =
      (drawing.pass fits document palettes full).error :=
  error_pass_editDrawAttrs options images (Scene.editTexts edit) fun _ _ => List.isEmpty_map

/-- In a pass that does not fail every draw string has a block of its own, in drawing order. Another
drawing with the same options and image states does not fail either, whatever other draw strings
the document gets, and draws each of them as a pass over the first document would. -/
theorem pass_isolated (drawing : Drawing ι) (fits : Nat → Nat → Bool) (document : Document)
    (palettes : Palettes) (full : Bool)
    (done : (drawing.pass fits document palettes full).error = none) :
    let setting := drawing.setting document palettes
    let outcome := drawing.pass fits document palettes full
    (outcome.ops = setting.passOps full
        (document.scene.drawStrings.map fun string => (setting.stringBlock string).ops) ∧
      outcome.drawing.diagnostics = document.scene.drawStrings.flatMap fun string =>
        (setting.stringBlock string).diagnostics) ∧
    (∀ entity text, setting.BlockForm entity text) ∧
    ∀ (other : Drawing ι) (edit : EntityRef → String → String → String),
      other.options = drawing.options →
      (∀ source, other.images.state source = drawing.images.state source) →
      let edited := other.pass fits (document.editStrings edit) palettes full
      let strings := document.scene.drawStrings.map fun string =>
        { string with text := edit string.entity string.name string.text }
      edited.error = none ∧
      edited.ops = setting.passOps full
        (strings.map fun string => (setting.stringBlock string).ops) ∧
      edited.drawing.diagnostics =
        strings.flatMap fun string => (setting.stringBlock string).diagnostics := by
  intro setting outcome
  refine ⟨pass_of_error_eq_none done, setting.blockForm, ?_⟩
  intro other edit options images edited strings
  have safe : edited.error = none := (error_pass_editStrings options images edit).trans done
  obtain ⟨ops, reports⟩ := pass_of_error_eq_none safe
  have same : other.setting (document.editStrings edit) palettes = setting.editStrings edit :=
    setting_editStrings options images edit
  have listed : (document.editStrings edit).scene.drawStrings = strings :=
    document.scene.drawStrings_editStrings edit
  have block : (setting.editStrings edit).stringBlock = setting.stringBlock :=
    funext fun string => setting.block_editStrings edit string.entity string.text
  rw [same, listed, block] at ops reports
  exact ⟨safe, ops, reports⟩

/-- A graph with a ring and a second string that asks for a style that there is not. -/
def labelledRing : Document where
  scene := (((Scene.new "ring" false .directed).insertAttr (.own (.graph Scene.root)) "bb"
    "0,0,72,72").insertDrawAttr (.graph Scene.root) "_draw_" "E 36 36 18 18").insertDrawAttr
      (.graph Scene.root) "_ldraw_" "c 3 -red S 5 -bogus E 36 36 18 18"
  metadata := {}
  diagnostics := []

/-- The label of a ring is replaced by a script that breaks off at once. -/
theorem pass_isolated_labelledRing :
    let drawing : Drawing Unit := .new {}
    let setting := drawing.setting labelledRing .minimal
    let edit := fun (_ : EntityRef) (name text : String) => if name = "_draw_" then text else "?"
    let edited := drawing.pass (fun _ _ => true) (labelledRing.editStrings edit) .minimal true
    (drawing.pass (fun _ _ => true) labelledRing .minimal true).error = none ∧
      edited.error = none ∧
      edited.ops = setting.passOps true
        [(setting.block (.graph Scene.root) "E 36 36 18 18").ops,
          (setting.block (.graph Scene.root) "?").ops] := by
  intro drawing setting edit edited
  have done : (drawing.pass (fun _ _ => true) labelledRing .minimal true).error = none :=
    Option.isNone_iff_eq_none.mp (by decide +kernel)
  obtain ⟨_, _, isolated⟩ := pass_isolated drawing (fun _ _ => true) labelledRing .minimal true done
  obtain ⟨safe, ops, _⟩ := isolated drawing edit rfl (fun _ => rfl)
  exact ⟨done, safe, ops⟩

end Drawing
end XdotViewer
