import XdotViewer.Proofs.Drawing.Figures
import XdotViewer.Proofs.Drawing.ImageNeeds
import XdotViewer.Proofs.Geometry.Pacing
import XdotViewer.Proofs.Script.Decoding
import XdotViewer.Proofs.Script.Takings

/-! # Strokes without an end

Dashes and dots are laid out along a path before it is stroked. On doubles that need not come to an
end: a line may be so long that its length stays the same when a dash is taken away from it. A pass
is endless exactly if it comes to an instruction that strokes a path in dashes or dots of which no
walk comes to the end. How far the images are has no part in that.
-/

namespace XdotViewer

/-- The way from mark to mark along a stroke; a solid line has no marks. -/
def PathStyle.spacing? (style : PathStyle) : Option Float :=
  match style.line with
  | .solid => none
  | .dashed => some style.dashLength
  | .dotted => some style.dotSpacing

/-- An outline cannot be laid out exactly if it is of dashes or dots whose marks do not come to the
end of the path. -/
private theorem strokedOutline?_eq_none_iff {path : Path Float} {style : PathStyle} :
    strokedOutline? path style = none ↔
      ∃ distance, style.spacing? = some distance ∧
        ¬ Path.MarkedFrom distance distance path.segments := by
  unfold strokedOutline? PathStyle.spacing?
  cases style.line with
  | solid => simp
  | dashed => simp [Path.dashedOutline?, Path.dashes?_eq_none_iff]
  | dotted => simp [Path.dottedOutline?, Path.dots?_eq_none_iff]

/-- A stroke has no end exactly if it is seen and its outline cannot be laid out. -/
private theorem strokePath?_eq_none_iff {ι : Type} {path : Path Float} {style : PathStyle}
    {pen : Pen} : (strokePath? path style pen : Option (List (DrawOp ι))) = none ↔
      outlineHidden style pen = false ∧ ∃ distance, style.spacing? = some distance ∧
        ¬ Path.MarkedFrom distance distance path.segments := by
  rw [← strokedOutline?_eq_none_iff, strokePath?]
  cases outlineHidden style pen with
  | true => simp
  | false => simp

namespace Trace

variable {ι : Type}

private theorem endless_join {traces : List (Trace ι)} :
    (join traces).endless = true ↔ ∃ trace ∈ traces, trace.endless = true := by
  induction traces with
  | nil => exact iff_of_false Bool.false_ne_true (by simp)
  | cons a rest ih =>
    have whole : join (a :: rest) = a ++ join rest := rfl
    rw [whole, endless_append, Bool.or_eq_true, ih, List.exists_mem_cons_iff]

end Trace

namespace Setting

variable {ι : Type}

/-- The instruction strokes a figure in dashes or dots, and their marks do not come to its end. -/
def StrokesEndlessly (setting : Setting ι) (state : ScriptState) (instruction : Instruction) :
    Prop :=
  ∃ figure, setting.figure? instruction = some figure ∧
    outlineHidden (setting.pathStyle state figure.filled) state.pen = false ∧
    ∃ distance, (setting.pathStyle state figure.filled).spacing? = some distance ∧
      ¬ Path.MarkedFrom distance distance figure.path.segments

/-- A stretch to which a pass comes, but which it does not leave. -/
def Endless (setting : Setting ι) : Stretch ι → Prop
  | .frame _ => False
  | .instruction _ state instruction => setting.StrokesEndlessly state instruction

variable (setting : Setting ι)

private theorem endless_drawPath (state : ScriptState) (fill : Bool) (path : Path Float) :
    (setting.drawPath state fill path).endless = true ↔
      outlineHidden (setting.pathStyle state fill) state.pen = false ∧
        ∃ distance, (setting.pathStyle state fill).spacing? = some distance ∧
          ¬ Path.MarkedFrom distance distance path.segments := by
  simp only [drawPath, Option.isNone_iff_eq_none, strokePath?_eq_none_iff]

/-- An instruction is endless exactly if its stroke is. -/
theorem endless_execute (entity : EntityRef) (state : ScriptState) (instruction : Instruction) :
    (setting.execute entity state instruction).2.endless = true ↔
      setting.StrokesEndlessly state instruction := by
  have painted {figure : Figure} (drawn : setting.figure? instruction = some figure)
      (whole : (setting.execute entity state instruction).2.endless =
        (setting.drawPath state figure.filled figure.path).endless) :
      (setting.execute entity state instruction).2.endless = true ↔
        setting.StrokesEndlessly state instruction := by
    rw [whole, endless_drawPath]
    simp only [StrokesEndlessly, drawn, Option.some.injEq, exists_eq_left']
  have unpainted (none : setting.figure? instruction = none)
      (ends : (setting.execute entity state instruction).2.endless = false) :
      (setting.execute entity state instruction).2.endless = true ↔
        setting.StrokesEndlessly state instruction := by
    rw [ends]
    refine iff_of_false Bool.false_ne_true ?_
    rintro ⟨figure, drawn, -⟩
    rw [none] at drawn
    cases drawn
  cases instruction with
  | ellipse filled center rx ry => exact painted rfl rfl
  | polygon filled points => exact painted rfl rfl
  | polyline points => exact painted rfl rfl
  | spline filled points => exact painted rfl rfl
  | image corner width height source =>
    refine unpainted rfl ?_
    simp only [execute, drawImage]
    split <;> rfl
  | text anchor align width text => exact unpainted rfl rfl
  | fillColor literal => exact unpainted rfl rfl
  | strokeColor literal => exact unpainted rfl rfl
  | font size family => exact unpainted rfl rfl
  | style style => exact unpainted rfl (by cases style <;> rfl)

/-- Instructions in sequence are endless exactly if one of them is. -/
theorem endless_executeAll (entity : EntityRef) (state : ScriptState)
    (instructions : List Instruction) :
    (setting.executeAll entity state instructions).endless = true ↔
      ∃ stretch ∈ setting.instructionStretches entity state instructions,
        setting.Endless stretch := by
  induction instructions generalizing state with
  | nil => exact iff_of_false Bool.false_ne_true (by simp [instructionStretches])
  | cons instruction rest ih =>
    have whole : setting.executeAll entity state (instruction :: rest) =
        (setting.execute entity state instruction).2 ++
          setting.executeAll entity (setting.execute entity state instruction).1 rest := rfl
    rw [whole, Trace.endless_append, Bool.or_eq_true, endless_execute, ih, instructionStretches,
      List.exists_mem_cons_iff]
    rfl

/-- A script is endless exactly if one of its instructions is. -/
theorem endless_block (entity : EntityRef) (text : String) :
    (setting.block entity text).endless = true ↔
      ∃ stretch ∈ setting.instructionStretches entity {} (Script.read text).instructions,
        setting.Endless stretch := by
  by_cases empty : (Script.read text).isEmpty = true
  · have none : (Script.read text).instructions = [] := by
      simp only [Script.isEmpty, Bool.and_eq_true, List.isEmpty_iff] at empty
      exact empty.1
    rw [block, if_pos empty, none]
    exact iff_of_false Bool.false_ne_true (by simp [instructionStretches])
  · have inside : (setting.block entity text).endless =
        (setting.executeAll entity {} (Script.read text).instructions).endless := by
      rw [block, if_neg empty]
      exact (Bool.or_false _).trans (Bool.or_false _)
    rw [inside, endless_executeAll]

/-- Wherever takings have led a cursor on a text, it is placed: what it leaves gets shorter, and its
script ends after no more turns than there are bytes. Drawing that script comes to its end exactly
if none of its strokes is endless. -/
theorem placed_and_block_ends_iff (entity : EntityRef) (text : String) (takings : List Taking) :
    Cursor.Placed text.toList ((Cursor.ofText text.toList).run takings) ∧
      ((setting.block entity text).endless = false ↔
        ¬ ∃ stretch ∈ setting.instructionStretches entity {} (Script.read text).instructions,
          setting.Endless stretch) := by
  refine ⟨Cursor.placed_run text.toList takings, ?_⟩
  rw [← endless_block, Bool.not_eq_true]

private theorem endless_stringBlock (string : DrawString) :
    (setting.stringBlock string).endless = true ↔
      ∃ stretch ∈ setting.stringStretches string, setting.Endless stretch := by
  rw [stringBlock, endless_block, stringStretches]
  by_cases empty : (Script.read string.text).isEmpty = true
  · have none : (Script.read string.text).instructions = [] := by
      simp only [Script.isEmpty, Bool.and_eq_true, List.isEmpty_iff] at empty
      exact empty.1
    simp [none, empty, instructionStretches]
  · simp [empty, Endless]

/-- What is drawn of some strings is endless exactly if a pass over them comes to an endless
stretch. -/
theorem endless_strings {full : Bool} {strings : List DrawString} :
    (Trace.join (strings.map setting.stringBlock)).endless = true ↔
      ∃ stretch ∈ setting.passStretches full strings, setting.Endless stretch := by
  rw [Trace.endless_join]
  constructor
  · rintro ⟨trace, drawn, endless⟩
    obtain ⟨string, listed, rfl⟩ := List.mem_map.mp drawn
    obtain ⟨stretch, member, endless⟩ := (setting.endless_stringBlock string).mp endless
    refine ⟨stretch, List.mem_append_left _ (List.mem_cons_of_mem _ ?_), endless⟩
    exact List.mem_flatMap.mpr ⟨string, listed, member⟩
  · rintro ⟨stretch, member, endless⟩
    rcases List.mem_append.mp member with inside | closing
    · rcases List.mem_cons.mp inside with rfl | within
      · exact endless.elim
      · obtain ⟨string, listed, member⟩ := List.mem_flatMap.mp within
        exact ⟨_, List.mem_map_of_mem listed,
          (setting.endless_stringBlock string).mpr ⟨stretch, member, endless⟩⟩
    · obtain rfl := List.mem_singleton.mp closing
      exact endless.elim

private theorem endless_repaint : setting.repaint.endless = true ↔
    ∃ stretch ∈ setting.passStretches false setting.scene.drawStrings, setting.Endless stretch := by
  rw [← endless_strings, ← join_drawnEntities]
  rfl

private theorem endless_fullPass : setting.fullPass.trace.endless = true ↔
    ∃ stretch ∈ setting.passStretches true setting.seededStrings, setting.Endless stretch := by
  rw [← endless_strings, ← join_seededStrings]
  rfl

end Setting

namespace Drawing

variable {ι : Type} {drawing other : Drawing ι} {fits : Nat → Nat → Bool} {document : Document}
  {palettes : Palettes}

/-- A pass is endless exactly if it comes to an endless stretch. -/
theorem endless_pass {full : Bool} :
    (drawing.pass fits document palettes full).endless = true ↔
      ∃ stretch ∈ drawing.stretches fits document palettes full,
        (drawing.setting document palettes).Endless stretch := by
  cases full with
  | false => exact Setting.endless_repaint _
  | true =>
    simp only [pass, if_true, draw, stretches]
    split
    · exact Setting.endless_fullPass _
    · exact iff_of_false Bool.false_ne_true (by simp)

/-- With the same options a repaint is endless or not, however far the images are. -/
theorem endless_pass_of_options (options : other.options = drawing.options) :
    (other.pass fits document palettes false).endless =
      (drawing.pass fits document palettes false).endless := by
  rw [Bool.eq_iff_iff, endless_pass, endless_pass, stretches_of_options options,
    setting_of_options options]
  rfl

/-- A full pass without an error is endless exactly if a repaint is. -/
theorem endless_pass_full (done : (drawing.pass fits document palettes true).error = none) :
    (drawing.pass fits document palettes true).endless =
      (drawing.pass fits document palettes false).endless := by
  obtain ⟨seeded, outcome⟩ := draw_of_error_eq_none done
  rw [pass, if_pos rfl, outcome, Setting.trace_fullPass seeded]
  rfl

end Drawing

section LongDash

/-- A dashed line that is so long that a dash makes no difference. -/
def longDash : String := " S 6 -dashed L 2 0 0 1e17 0"

/-- Both instructions are written as they should be. -/
theorem encodes_longDash :
    Encodes [.style .dashed, .polyline [⟨0.0, 0.0⟩, ⟨1e17, 0.0⟩]] longDash.toList := by
  have numbers : WritesNumbers [0.0, 0.0, 1e17, 0.0]
      (["0", "0", "1e17", "0"].map String.toList) := by
    have zero : WritesNumber 0.0 "0".toList := ⟨by decide, by decide +kernel⟩
    exact .cons zero (.cons zero (.cons ⟨by decide, by decide +kernel⟩ (.cons zero .nil)))
  let parts : List (List (List Char)) :=
    [["S", "6", "-dashed"].map String.toList,
      ["L", "2", "0", "0", "1e17", "0"].map String.toList]
  have writes : List.Forall₂ Instruction.Writes
      [.style .dashed, .polyline [⟨0.0, 0.0⟩, ⟨1e17, 0.0⟩]] parts :=
    .cons (.style .dashed (.announced (by decide +kernel) (by decide +kernel)))
      (.cons (.polyline (.counted (by decide +kernel) (by decide +kernel) numbers)) .nil)
  have whole : longDash.toList = parts.flatten.flatMap fun token => [' '] ++ token := by decide
  exact ⟨parts, writes, whole ▸ spaced_flatMap _⟩

private theorem read_longDash : Script.read longDash =
    ⟨[.style .dashed, .polyline [⟨0.0, 0.0⟩, ⟨1e17, 0.0⟩]], none⟩ :=
  encodes_longDash.readFrom

variable {ι : Type} {setting : Setting ι} {state : ScriptState}
  (height : setting.document.metadata.height = 0.0) (length : setting.options.dashLength = 6.0)
include height length

private theorem strokesEndlessly_longDash (dashed : state.line = .dashed) :
    setting.StrokesEndlessly state (.polyline [⟨0.0, 0.0⟩, ⟨1e17, 0.0⟩]) := by
  have flipped : setting.flip 0.0 = 0.0 := by
    rw [Setting.flip, height]
    decide +kernel
  refine ⟨⟨false, .segments [.line ⟨0.0, 0.0⟩ ⟨1e17, 0.0⟩]⟩, ?_, rfl, 6.0, ?_, ?_⟩
  · simp only [Setting.figure?, List.map_cons, List.map_nil, Setting.flipPoint, flipped,
      linesBetween]
  · simp only [PathStyle.spacing?, Setting.pathStyle, dashed, length]
  · have endless (left : Float) :
        ¬ (Bezier.line ⟨0.0, 0.0⟩ ⟨1e17, 0.0⟩ : Bezier Float).Leaves 6.0 6.0 left := by
      apply Bezier.not_leaves_of_stuck <;> decide +kernel
    rintro (_ | ⟨leaves, -⟩)
    exact endless _ leaves

/-- The block of that script is never left. -/
theorem endless_block_longDash (entity : EntityRef) :
    (setting.block entity longDash).endless = true := by
  rw [Setting.endless_block, read_longDash]
  exact ⟨_, List.mem_cons_of_mem _ List.mem_cons_self, strokesEndlessly_longDash height length rfl⟩

omit height length in
/-- There is a script whose block is never left. -/
theorem not_forall_block_ends :
    ¬ ∀ (setting : Setting Unit) (entity : EntityRef) (text : String),
      (setting.block entity text).endless = false := by
  intro ends
  let setting : Setting Unit :=
    ⟨⟨.new "G" false .directed, {}, []⟩, .minimal, {}, fun _ => .pending⟩
  have endless : (setting.block (.graph Scene.root) longDash).endless = true :=
    endless_block_longDash rfl rfl _
  rw [ends] at endless
  cases endless

/-- A pass over that script comes to an endless stretch. -/
theorem exists_endless_of_longDash {full : Bool} {strings : List DrawString}
    (listed : longDash ∈ strings.map DrawString.text) :
    ∃ stretch ∈ setting.passStretches full strings, setting.Endless stretch := by
  obtain ⟨string, member, text⟩ := List.mem_map.mp listed
  rw [← Setting.endless_strings, Trace.endless_join]
  refine ⟨_, List.mem_map_of_mem member, ?_⟩
  rw [Setting.stringBlock, text]
  exact endless_block_longDash height length string.entity

omit height length in
/-- A repaint of a document with that line among its draw strings is endless. -/
theorem Drawing.exists_endless_repaint {drawing : Drawing ι} {document : Document}
    (height : document.metadata.height = 0.0) (length : drawing.options.dashLength = 6.0)
    (listed : longDash ∈ document.scene.drawStrings.map DrawString.text)
    (fits : Nat → Nat → Bool) (palettes : Palettes) :
    ∃ stretch ∈ drawing.stretches fits document palettes false,
      (drawing.setting document palettes).Endless stretch := by
  rw [Drawing.stretches_repaint]
  exact exists_endless_of_longDash height length listed

end LongDash

end XdotViewer
