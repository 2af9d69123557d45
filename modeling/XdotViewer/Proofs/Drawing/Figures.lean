import XdotViewer.Proofs.Drawing.Elements
import XdotViewer.Proofs.Geometry.Retracing

/-! # Figures

An ellipse, a polygon, a polyline or a spline instruction paints one path. What shape it is and
whether it is filled depends on the instruction alone; the state only tells how it is stroked and
with which pen.
-/

namespace XdotViewer

/-- A shape that is painted, and whether it is filled. -/
structure Figure where
  filled : Bool
  shape : Shape Float

def Figure.path (figure : Figure) : Path Float :=
  .ofShape figure.shape

namespace Setting

variable {ι : Type} (setting : Setting ι)

/-- The figure that an instruction paints. -/
def figure? : Instruction → Option Figure
  | .ellipse filled center rx ry =>
    some ⟨filled, .ellipse ⟨center.x, setting.flip center.y, rx, ry⟩⟩
  | .polygon filled points => some ⟨filled, .polygon (points.map setting.flipPoint)⟩
  | .polyline points => some ⟨false, .segments (linesBetween (points.map setting.flipPoint))⟩
  | .spline filled points =>
    some ⟨filled, .segments (splineSegments (points.map setting.flipPoint))⟩
  | _ => none

/-- An instruction paints its figure. -/
theorem ops_execute_of_figure {instruction : Instruction} {figure : Figure}
    (painted : setting.figure? instruction = some figure) (entity : EntityRef)
    (state : ScriptState) : (setting.execute entity state instruction).2.ops =
      paintPath figure.path (setting.pathStyle state figure.filled) state.pen := by
  cases instruction with
  | ellipse | polygon | polyline | spline =>
    cases painted
    rfl
  | _ => cases painted

/-- The figures of an entity, in the order in which they are painted. A script that cannot be read
to its end paints those before the fault. -/
def figuresOf (entity : EntityRef) : List Figure :=
  (setting.scene.stringsOf entity).flatMap fun string =>
    (Script.read string.text).instructions.filterMap setting.figure?

/-- The box around the figure of a stretch. -/
def figureBox? : Stretch ι → Option (Rect Float)
  | .instruction _ _ instruction => (setting.figure? instruction).bind fun figure =>
    figure.path.box?
  | .frame _ => none

private theorem picks_boxes : setting.Picks Trace.boxes setting.figureBox? where
  empty := rfl
  append _ _ := rfl
  ops _ := rfl
  reports _ := rfl
  frame _ := rfl
  execute := by
    intro entity state instruction
    cases instruction with
    | image corner width height source =>
      simp only [execute, drawImage]
      split <;> rfl
    | style style => cases style <;> rfl
    | _ => rfl

private theorem filterMap_instructionStretches (entity : EntityRef) (state : ScriptState)
    (instructions : List Instruction) :
    (setting.instructionStretches entity state instructions).filterMap setting.figureBox? =
      (instructions.filterMap setting.figure?).filterMap fun figure => figure.path.box? := by
  induction instructions generalizing state with
  | nil => rfl
  | cons instruction rest ih =>
    rw [instructionStretches, List.filterMap_cons, List.filterMap_cons, ih, figureBox?]
    cases setting.figure? instruction <;> rfl

/-- The boxes that an entity leaves behind are those around its figures. -/
theorem boxes_drawEntity (entity : EntityRef) : (setting.drawEntity entity).boxes =
    (setting.figuresOf entity).filterMap fun figure => figure.path.box? := by
  rw [setting.picks_boxes.drawEntity, entityStretches, figuresOf, List.filterMap_flatMap,
    List.filterMap_flatMap]
  congr 1
  funext string
  rw [stringStretches]
  split
  · rename_i empty
    rw [Script.isEmpty, Bool.and_eq_true, List.isEmpty_iff] at empty
    rw [empty.1]
    rfl
  · rw [List.filterMap_append, List.filterMap_cons, filterMap_instructionStretches]
    exact List.append_nil _

/-- The path of every figure is retraced by a pen that keeps its position, be the operands of the
instruction what they may, and so is every rectangle. -/
theorem outlines_retraced :
    (∀ (instruction : Instruction) (figure : Figure),
      setting.figure? instruction = some figure →
      (∀ entity state, (setting.execute entity state instruction).2.ops =
        paintPath figure.path (setting.pathStyle state figure.filled) state.pen) ∧
      figure.path.Retraced) ∧
    ∀ rect : Rect Float, (Path.ofShape (.rect rect)).Retraced := by
  refine ⟨fun instruction figure painted => ⟨setting.ops_execute_of_figure painted, ?_⟩,
    fun rect => Path.retraced_of_closed rfl⟩
  cases instruction with
  | ellipse filled center rx ry =>
    cases painted
    exact Path.retraced_of_closed rfl
  | polygon filled points =>
    cases painted
    exact Path.retraced_of_closed rfl
  | polyline points =>
    cases painted
    obtain ⟨p, q, trail⟩ := exists_trail_linesBetween (points.map setting.flipPoint)
    exact Path.retraced_of_trail trail nofun
  | spline filled points =>
    cases painted
    obtain ⟨p, q, trail⟩ := exists_trail_splineSegments (points.map setting.flipPoint)
    exact Path.retraced_of_trail trail nofun
  | _ => cases painted

/-- A polygon of one point is a line from the point to itself. -/
theorem outlines_retraced_point :
    let setting := (Drawing.new {} : Drawing Unit).setting Drawing.ringDocument .minimal
    let p := setting.flipPoint ⟨1, 2⟩
    let figure : Figure := ⟨true, .polygon [p]⟩
    setting.figure? (.polygon true [⟨1, 2⟩]) = some figure ∧
      figure.path.segments = [.line p p] ∧ figure.path.Retraced := by
  intro setting p figure
  exact ⟨rfl, rfl, (setting.outlines_retraced.1 (.polygon true [⟨1, 2⟩]) figure rfl).2⟩

end Setting
end XdotViewer
