import XdotViewer.Drawing
import XdotViewer.Proofs.Drawing.Isolation

/-! # Stretches of a pass

The operations of a pass fall into stretches: those that an instruction leaves behind, with the
state in which it was executed, and those around the instructions and the scripts. A full pass may
end before it has come to all scripts, and a canvas of the wrong size takes no operations at all.
-/

namespace XdotViewer

inductive Stretch (ι : Type) where
  /-- Operations around instructions. -/
  | frame (ops : List (DrawOp ι))
  | instruction (entity : EntityRef) (state : ScriptState) (instruction : Instruction)

namespace Setting

variable {ι : Type}

def stretchOps (setting : Setting ι) : Stretch ι → List (DrawOp ι)
  | .frame ops => ops
  | .instruction entity state instruction => (setting.execute entity state instruction).2.ops

/-- Instructions of an entity, each in the state to which those before it lead. -/
def instructionStretches (setting : Setting ι) (entity : EntityRef) :
    ScriptState → List Instruction → List (Stretch ι)
  | _, [] => []
  | state, instruction :: rest =>
    .instruction entity state instruction ::
      setting.instructionStretches entity (setting.execute entity state instruction).1 rest

def stringStretches (setting : Setting ι) (string : DrawString) : List (Stretch ι) :=
  let script := Script.read string.text
  if script.isEmpty then []
  else
    .frame (.save :: penOps {}) ::
      setting.instructionStretches string.entity {} script.instructions ++ [.frame [.restore]]

/-- A pass over draw strings. A full one resizes the canvas first. -/
def passStretches (setting : Setting ι) (full : Bool) (strings : List DrawString) :
    List (Stretch ι) :=
  let size := setting.canvasSize
  .frame ((if full then [.resize size.1 size.2] else []) ++ setting.header) ::
    strings.flatMap setting.stringStretches ++ [.frame [.restore]]

/-- The draw strings that a full pass comes to: those of entities before the first without a
seed. -/
def seededStrings (setting : Setting ι) : List DrawString :=
  ((setting.drawEntities setting.drawnEntities).1.map EntityDrawing.entity).flatMap
    setting.scene.stringsOf

variable (setting : Setting ι)

private theorem ops_instructionStretches (entity : EntityRef) (state : ScriptState)
    (instructions : List Instruction) :
    (setting.instructionStretches entity state instructions).flatMap setting.stretchOps =
      (setting.executeAll entity state instructions).ops := by
  induction instructions generalizing state with
  | nil => rfl
  | cons instruction rest ih =>
    rw [instructionStretches, List.flatMap_cons, ih]
    rfl

private theorem ops_stringStretches (string : DrawString) :
    (setting.stringStretches string).flatMap setting.stretchOps =
      (setting.stringBlock string).ops := by
  by_cases empty : (Script.read string.text).isEmpty = true
  · simp only [stringStretches, stringBlock, block, if_pos empty]
    rfl
  · rw [stringStretches, if_neg empty, stringBlock,
      (setting.block_of_filled string.entity empty).1, blockOps, List.flatMap_append,
      List.flatMap_cons, ops_instructionStretches]
    rfl

private theorem ops_passStretches (full : Bool) (strings : List DrawString) :
    (setting.passStretches full strings).flatMap setting.stretchOps =
      setting.passOps full (strings.map fun string => (setting.stringBlock string).ops) := by
  simp only [passStretches, List.flatMap_append, List.flatMap_cons, List.flatMap_assoc,
    ops_stringStretches, passOps, ← List.flatMap_def]
  rfl

/-- A full pass draws the strings that it comes to. -/
theorem join_seededStrings :
    Trace.join ((setting.drawEntities setting.drawnEntities).1.map EntityDrawing.trace) =
      Trace.join (setting.seededStrings.map setting.stringBlock) := by
  have drawn (entities : List EntityRef) :
      (setting.drawEntities entities).1.map EntityDrawing.trace =
        ((setting.drawEntities entities).1.map EntityDrawing.entity).map setting.drawEntity := by
    induction entities with
    | nil => rfl
    | cons entity rest ih =>
      simp only [drawEntities]
      split
      · rfl
      · simp only [List.map_cons, ih]
  rw [drawn, join_drawEntity, seededStrings]

/-- The operations of a full pass are those of the blocks that it comes to. -/
theorem fullPass_eq_passOps : setting.fullPass.trace.ops =
    setting.passOps true
      (setting.seededStrings.map fun string => (setting.stringBlock string).ops) := by
  simp only [fullPass, join_seededStrings, Trace.ops_join, List.flatMap_map]
  rfl

end Setting

namespace Drawing

variable {ι : Type}

/-- The stretches of a pass, be it full or not. -/
def stretches (drawing : Drawing ι) (fits : Nat → Nat → Bool) (document : Document)
    (palettes : Palettes) (full : Bool) : List (Stretch ι) :=
  let setting := drawing.setting document palettes
  let (width, height) := setting.canvasSize
  if full then
    if fits width height then setting.passStretches true setting.seededStrings else []
  else setting.passStretches false setting.scene.drawStrings

/-- The stretches of a pass have all of its operations. -/
theorem ops_stretches (drawing : Drawing ι) (fits : Nat → Nat → Bool) (document : Document)
    (palettes : Palettes) (full : Bool) :
    (drawing.stretches fits document palettes full).flatMap
        (drawing.setting document palettes).stretchOps =
      (drawing.pass fits document palettes full).ops := by
  cases full with
  | false => exact (Setting.ops_passStretches _ _ _).trans (Setting.repaint_eq_passOps _).symm
  | true =>
    simp only [stretches, pass, if_true, draw]
    split
    · exact (Setting.ops_passStretches _ _ _).trans (Setting.fullPass_eq_passOps _).symm
    · rfl

end Drawing
end XdotViewer
