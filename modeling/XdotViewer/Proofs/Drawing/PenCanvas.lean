import XdotViewer.Canvas.Painting

/-! # The pen of a canvas

A canvas has a pen of its own and a stack of the pens that it has saved. Operations are replayed on
it to see which pen it has wherever something is filled or stroked. Paths leave the canvas as they
find it, and so does the sign for a missing picture.
-/

namespace XdotViewer

section Along

variable {σ α : Type} {step : σ → α → σ} {holds : σ → α → Prop} {start : σ}

/-- What holds of each element of a list, in the state to which the elements before it lead. -/
def Along (step : σ → α → σ) (holds : σ → α → Prop) (start : σ) (list : List α) : Prop :=
  ∀ front a back, list = front ++ a :: back → holds (front.foldl step start) a

theorem along_nil : Along step holds start [] := by
  intro front a back whole
  simp at whole

theorem along_cons {a : α} {rest : List α} :
    Along step holds start (a :: rest) ↔ holds start a ∧ Along step holds (step start a) rest := by
  constructor
  · intro along
    refine ⟨along [] a rest rfl, fun front b back whole => ?_⟩
    exact along (a :: front) b back (congrArg (a :: ·) whole)
  · rintro ⟨here, later⟩ front b back whole
    cases front with
    | nil =>
      obtain ⟨rfl, rfl⟩ := List.cons.inj whole
      exact here
    | cons c front =>
      obtain ⟨rfl, rest⟩ := List.cons.inj whole
      exact later front b back rest

theorem along_append {first second : List α} :
    Along step holds start (first ++ second) ↔
      Along step holds start first ∧ Along step holds (first.foldl step start) second := by
  induction first generalizing start with
  | nil => simp [along_nil]
  | cons a rest ih => rw [List.cons_append, along_cons, along_cons, ih, and_assoc, List.foldl_cons]

end Along

structure PenCanvas where
  pen : Pen
  saved : List Pen

variable {ι : Type}

namespace PenCanvas

/-- A resized canvas is a fresh one; where nothing is saved, nothing is restored. -/
def apply (canvas : PenCanvas) : DrawOp ι → PenCanvas
  | .resize _ _ => ⟨{}, []⟩
  | .save => { canvas with saved := canvas.pen :: canvas.saved }
  | .restore =>
    match canvas.saved with
    | pen :: saved => ⟨pen, saved⟩
    | [] => canvas
  | .fillColor color => { canvas with pen := { canvas.pen with fill := color } }
  | .strokeColor color => { canvas with pen := { canvas.pen with stroke := color } }
  | .lineWidth width => { canvas with pen := { canvas.pen with width } }
  | .translate _ _ | .scale _ _ | .clear _ _ _ | .lineCap _ | .property _ _ | .beginPath
  | .path _ | .fill | .stroke | .image _ _ _ _ _ => canvas

/-- Restoring brings the pen back that was saved last. -/
theorem apply_restore {canvas : PenCanvas} {pen : Pen} {rest : List Pen}
    (saved : canvas.saved = pen :: rest) : canvas.apply (.restore : DrawOp ι) = ⟨pen, rest⟩ := by
  rw [apply, saved]

def replay (canvas : PenCanvas) (ops : List (DrawOp ι)) : PenCanvas :=
  ops.foldl apply canvas

/-- Operations in two parts are replayed one after the other. -/
theorem replay_append (canvas : PenCanvas) (first second : List (DrawOp ι)) :
    canvas.replay (first ++ second) = (canvas.replay first).replay second :=
  List.foldl_append

end PenCanvas

/-- Where an operation fills or strokes, the canvas has a pen that may. -/
def Inked (fills strokes : Pen → Prop) (canvas : PenCanvas) : DrawOp ι → Prop
  | .fill => fills canvas.pen
  | .stroke => strokes canvas.pen
  | _ => True

/-- Operations lead from one canvas to another, and fill and stroke with pens that may. -/
structure Paints (fills strokes : Pen → Prop) (before : PenCanvas) (ops : List (DrawOp ι))
    (after : PenCanvas) : Prop where
  leads : before.replay ops = after
  inked : Along PenCanvas.apply (Inked fills strokes) before ops

namespace Paints

variable {fills strokes : Pen → Prop} {before between after : PenCanvas}
  {first second : List (DrawOp ι)}

theorem nil : Paints fills strokes before ([] : List (DrawOp ι)) before :=
  ⟨rfl, along_nil⟩

theorem cons {op : DrawOp ι} (inked : Inked fills strokes before op)
    (rest : Paints fills strokes (before.apply op) first after) :
    Paints fills strokes before (op :: first) after :=
  ⟨rest.leads, along_cons.mpr ⟨inked, rest.inked⟩⟩

private theorem append (left : Paints fills strokes before first between)
    (right : Paints fills strokes between second after) :
    Paints fills strokes before (first ++ second) after where
  leads := by rw [PenCanvas.replay_append, left.leads, right.leads]
  inked := by
    obtain ⟨rfl, inked⟩ := left
    exact along_append.mpr ⟨inked, right.inked⟩

private theorem steps (canvas : PenCanvas) (outline : Outline Float) :
    Paints fills strokes canvas (outline.map .path : List (DrawOp ι)) canvas := by
  induction outline with
  | nil => exact .nil
  | cons step rest ih => exact .cons trivial ih

end Paints

section Painting

variable {fills strokes : Pen → Prop} {canvas : PenCanvas}

private theorem paints_outline (canvas : PenCanvas) (outline : Outline Float) :
    Paints fills strokes canvas (.beginPath :: outline.map .path : List (DrawOp ι)) canvas :=
  .cons trivial (.steps canvas outline)

private theorem paints_strokeOutline (inked : strokes canvas.pen) (outline : Outline Float) :
    Paints fills strokes canvas (strokeOutline outline : List (DrawOp ι)) canvas :=
  (paints_outline canvas outline).append (.cons inked .nil)

private theorem paints_fillPath (inked : fills canvas.pen) (path : Path Float) :
    Paints fills strokes canvas (fillPath path : List (DrawOp ι)) canvas :=
  (paints_outline canvas path.outline).append (.cons inked .nil)

/-- What a path with a certain pen is stroked with. Dots may be made wider. -/
structure StrokesPath (line : LineType) (given pen : Pen) : Prop where
  color : pen.stroke = given.stroke
  width : line ≠ .dotted → pen.width = given.width
  /-- A width that is a number becomes that of the smallest dots at least. -/
  dots : line = .dotted → Scalar.isNaN given.width = false →
    pen.width = Scalar.max minDotWidth given.width
  /-- Dots that are not too thin keep their width. -/
  unchanged : ¬ given.width < minDotWidth → pen.width = given.width

private theorem strokesPath_self {line : LineType} {pen : Pen}
    (wide : line = .dotted → ¬ pen.width < minDotWidth) : StrokesPath line pen pen where
  color := rfl
  width _ := rfl
  dots dotted number := by
    rw [Scalar.max, number, if_neg Bool.false_ne_true]
    exact (if_neg (wide dotted)).symm
  unchanged _ := rfl

private theorem strokesPath_widened {pen : Pen} (thin : pen.width < minDotWidth) :
    StrokesPath .dotted pen { pen with width := minDotWidth } where
  color := rfl
  width other := absurd rfl other
  dots _ number := by
    rw [Scalar.max, number, if_neg Bool.false_ne_true]
    exact (if_pos thin).symm
  unchanged wide := absurd thin wide

/-- The width of dots is put back after them. -/
theorem paints_strokeAlong (style : PathStyle) (canvas : PenCanvas) (outline : Outline Float) :
    Paints fills (StrokesPath style.line canvas.pen) canvas
      (strokeAlong style canvas.pen outline : List (DrawOp ι)) canvas := by
  unfold strokeAlong
  split
  · rename_i solid
    have inked : StrokesPath style.line canvas.pen canvas.pen :=
      strokesPath_self fun dotted => by simp [solid] at dotted
    split
    · exact .cons inked .nil
    · exact paints_strokeOutline inked _
  · rename_i dashed
    have inked : StrokesPath style.line canvas.pen canvas.pen :=
      strokesPath_self fun dotted => by simp [dashed] at dotted
    exact paints_strokeOutline inked _
  · rename_i dotted
    split
    · rename_i thin
      rw [dotted]
      let wide : PenCanvas := ⟨{ canvas.pen with width := minDotWidth }, canvas.saved⟩
      have dots : Paints fills (StrokesPath .dotted canvas.pen) wide
          (strokeOutline outline : List (DrawOp ι)) wide :=
        paints_strokeOutline (strokesPath_widened thin) _
      exact .cons trivial (dots.append (.cons trivial .nil))
    · rename_i wide
      exact paints_strokeOutline (strokesPath_self fun _ => wide) _

/-- A stroke that is hidden or has no end does nothing. -/
theorem paints_strokePath (path : Path Float) (style : PathStyle) (canvas : PenCanvas) :
    Paints fills (StrokesPath style.line canvas.pen) canvas
      ((strokePath? path style canvas.pen).getD [] : List (DrawOp ι)) canvas := by
  unfold strokePath?
  split
  · exact .nil
  · cases strokedOutline? path style with
    | none => exact .nil
    | some outline => exact paints_strokeAlong style canvas outline

private theorem paints_extras (canvas : PenCanvas) (extras : List (String × String)) :
    Paints fills strokes canvas
      (extras.map fun (name, value) => .property name value : List (DrawOp ι)) canvas := by
  induction extras with
  | nil => exact .nil
  | cons extra rest ih => exact .cons trivial ih

/-- Painting a path uses the pen of the canvas, but for the width of dots, and leaves it as it was.
-/
theorem paints_paintPath (inked : fills canvas.pen) (path : Path Float) (style : PathStyle) :
    Paints fills (StrokesPath style.line canvas.pen) canvas
      (paintPath path style canvas.pen : List (DrawOp ι)) canvas := by
  have filled : Paints fills (StrokesPath style.line canvas.pen) canvas
      (if style.fill then fillPath path else [] : List (DrawOp ι)) canvas := by
    split
    · exact paints_fillPath inked path
    · exact .nil
  exact ((paints_extras canvas style.extras).append filled).append (paints_strokePath _ _ canvas)

/-- The sign is stroked in red and leaves no mark on the canvas. -/
theorem paints_missingImage (left top width height : Float) (canvas : PenCanvas) :
    Paints fills (fun pen => pen.stroke = missingImageColor ∧ pen.width = 1.0) canvas
      (paintMissingImage left top width height : List (DrawOp ι)) canvas := by
  unfold paintMissingImage
  simp only
  generalize (Path.outline _ ++ _ : Outline Float) = outline
  let saved : PenCanvas := ⟨canvas.pen, canvas.pen :: canvas.saved⟩
  have start : Paints fills (fun pen => pen.stroke = missingImageColor ∧ pen.width = 1.0) canvas
      ([.save, .beginPath] ++ outline.map .path : List (DrawOp ι)) saved :=
    .cons trivial (paints_outline saved outline)
  exact start.append (.cons trivial (.cons trivial (.cons ⟨rfl, rfl⟩ (.cons trivial .nil))))

end Painting

end XdotViewer
