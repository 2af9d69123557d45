import XdotViewer.Proofs.Drawing.PenCanvas
import XdotViewer.Proofs.Drawing.Stretches

/-! # The canvas follows the pen

The pen of the script and the pen of the canvas are set apart from each other, in many places. Still
they agree before and after every instruction, and the canvas fills and strokes with what the script
asks for.
-/

namespace XdotViewer

/-- The pens that an instruction may stroke with: only the sign for a missing picture has a pen of
its own. -/
def Instruction.Strokes (state : ScriptState) (pen : Pen) : Instruction → Prop
  | .image _ _ _ _ => pen.stroke = missingImageColor ∧ pen.width = 1.0
  | _ => StrokesPath state.line state.pen pen

namespace Setting

variable {ι : Type} (setting : Setting ι) (entity : EntityRef)

/-- Around instructions nothing is filled or stroked. An instruction finds the pen of its script on
the canvas, fills and strokes with the right pen, and puts the new pen of the script there. -/
def Follows (setting : Setting ι) (canvas : PenCanvas) : Stretch ι → Prop
  | .frame ops => .fill ∉ ops ∧ .stroke ∉ ops
  | .instruction entity state instruction =>
    let (next, trace) := setting.execute entity state instruction
    canvas.pen = state.pen ∧
      Paints (fun pen => pen.fill = state.pen.fill) (fun pen => instruction.Strokes state pen)
        canvas trace.ops ⟨next.pen, canvas.saved⟩

def advance (setting : Setting ι) (canvas : PenCanvas) (stretch : Stretch ι) : PenCanvas :=
  canvas.replay (setting.stretchOps stretch)

private theorem foldl_advance (canvas : PenCanvas) (stretches : List (Stretch ι)) :
    stretches.foldl setting.advance canvas =
      canvas.replay (stretches.flatMap setting.stretchOps) := by
  induction stretches generalizing canvas with
  | nil => rfl
  | cons stretch rest ih =>
    rw [List.foldl_cons, ih, List.flatMap_cons, PenCanvas.replay_append, advance]

private theorem paints_drawPath {fills : Pen → Prop} (state : ScriptState) (fill : Bool)
    (path : Path Float) (saved : List Pen) (inked : fills state.pen) :
    Paints fills (StrokesPath state.line state.pen) ⟨state.pen, saved⟩
      (setting.drawPath state fill path).ops ⟨state.pen, saved⟩ :=
  @paints_paintPath ι fills ⟨state.pen, saved⟩ inked path (setting.pathStyle state fill)

/-- Every instruction keeps the pen of the canvas and that of the script together. -/
theorem follows_execute (state : ScriptState) (instruction : Instruction) (saved : List Pen) :
    setting.Follows ⟨state.pen, saved⟩ (.instruction entity state instruction) := by
  refine ⟨rfl, ?_⟩
  cases instruction with
  | ellipse filled center rx ry => exact setting.paints_drawPath state filled _ saved rfl
  | polygon filled points => exact setting.paints_drawPath state filled _ saved rfl
  | polyline points => exact setting.paints_drawPath state false _ saved rfl
  | spline filled points => exact setting.paints_drawPath state filled _ saved rfl
  | image corner width height source =>
    simp only [drawImage]
    split
    · exact .nil
    · exact .cons trivial .nil
    · exact paints_missingImage _ _ _ _ _
  | text anchor align width text => exact .nil
  | fillColor literal => exact .cons trivial .nil
  | strokeColor literal => exact .cons trivial .nil
  | font size family => exact .nil
  | style style =>
    cases style with
    | plain => exact .nil
    | dashed => exact .nil
    | dotted => exact .nil
    | width width => exact .cons trivial .nil

/-- Instructions in sequence: the pens stay together, and nothing is left saved or restored. -/
theorem follows_instructions (state : ScriptState) (instructions : List Instruction)
    (saved : List Pen) :
    let stretches := setting.instructionStretches entity state instructions
    Along setting.advance setting.Follows ⟨state.pen, saved⟩ stretches ∧
      (stretches.foldl setting.advance ⟨state.pen, saved⟩).saved = saved := by
  induction instructions generalizing state with
  | nil => exact ⟨along_nil, rfl⟩
  | cons instruction rest ih =>
    have here := setting.follows_execute entity state instruction saved
    have reached : setting.advance ⟨state.pen, saved⟩ (.instruction entity state instruction) =
        ⟨(setting.execute entity state instruction).1.pen, saved⟩ := here.2.leads
    obtain ⟨later, settled⟩ := ih (setting.execute entity state instruction).1
    -- The canvas has arrived where the rest of the script begins.
    rw [← reached] at later settled
    exact ⟨along_cons.mpr ⟨here, later⟩, settled⟩

/-- A script starts with a fresh pen on the canvas, whatever pen was there, and puts that back. -/
theorem follows_string (string : DrawString) (canvas : PenCanvas) :
    Along setting.advance setting.Follows canvas (setting.stringStretches string) ∧
      (setting.stringStretches string).foldl setting.advance canvas = canvas := by
  unfold stringStretches
  simp only
  split
  · exact ⟨along_nil, rfl⟩
  · have opening : setting.advance canvas (.frame (.save :: penOps {})) =
        ⟨({} : ScriptState).pen, canvas.pen :: canvas.saved⟩ := rfl
    obtain ⟨inside, settled⟩ := setting.follows_instructions string.entity {}
      (Script.read string.text).instructions (canvas.pen :: canvas.saved)
    rw [← opening] at inside settled
    constructor
    · rw [along_append, along_cons, along_cons]
      refine ⟨⟨?_, inside⟩, ?_, along_nil⟩
      · simp [Follows, penOps]
      · simp [Follows]
    · rw [List.foldl_append]
      exact @PenCanvas.apply_restore ι _ _ _ settled

private theorem follows_strings (strings : List DrawString) (canvas : PenCanvas) :
    Along setting.advance setting.Follows canvas (strings.flatMap setting.stringStretches) := by
  induction strings with
  | nil => exact along_nil
  | cons string rest ih =>
    obtain ⟨here, back⟩ := setting.follows_string string canvas
    rw [List.flatMap_cons, along_append, back]
    exact ⟨here, ih⟩

private theorem follows_pass (full : Bool) (strings : List DrawString) (canvas : PenCanvas) :
    Along setting.advance setting.Follows canvas (setting.passStretches full strings) := by
  rw [passStretches, along_append, along_cons, along_cons]
  refine ⟨⟨?_, setting.follows_strings strings _⟩, ?_, along_nil⟩
  · cases full <;> simp [Follows, header]
  · simp [Follows]

end Setting

namespace Drawing

variable {ι : Type}

/-- Every pass, on whatever canvas it begins: its operations are those of its stretches, and at each
of them the canvas follows the pen of the script. -/
theorem pass_follows_pen (drawing : Drawing ι) (fits : Nat → Nat → Bool) (document : Document)
    (palettes : Palettes) (full : Bool) (canvas : PenCanvas) :
    let setting := drawing.setting document palettes
    let stretches := drawing.stretches fits document palettes full
    (drawing.pass fits document palettes full).ops = stretches.flatMap setting.stretchOps ∧
      ∀ before stretch after, stretches = before ++ stretch :: after →
        setting.Follows (canvas.replay (before.flatMap setting.stretchOps)) stretch := by
  intro setting stretches
  refine ⟨(drawing.ops_stretches fits document palettes full).symm, ?_⟩
  have along : Along setting.advance setting.Follows canvas stretches := by
    simp only [stretches, Drawing.stretches]
    split
    · split
      · exact setting.follows_pass true _ canvas
      · exact along_nil
    · exact setting.follows_pass false _ canvas
  intro before stretch after whole
  rw [← setting.foldl_advance]
  exact along before stretch after whole

end Drawing
end XdotViewer
