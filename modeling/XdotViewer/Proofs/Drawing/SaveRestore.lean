import XdotViewer.Drawing.Block
import Mathlib.Data.List.Infix

/-! # Saving and restoring the canvas

Every operation list that drawing leaves behind restores what it has saved, and nothing else: paths
save nothing, the sign for a missing picture and whole blocks put what they do between a save and a
restore. What stands there are operations on the path and the pen, and pictures.
-/

namespace XdotViewer

variable {ι : Type}

namespace DrawOp

def isSave : DrawOp ι → Bool
  | save => true
  | _ => false

def isRestore : DrawOp ι → Bool
  | restore => true
  | _ => false

/-- An operation on the path or the pen, or a picture. -/
def isPlain : DrawOp ι → Bool
  | resize .. | save | restore | translate .. | scale .. | clear .. => false
  | _ => true

end DrawOp

/-- Operations that never restore more than they have saved, and everything in the end. -/
structure SaveBalanced (ops : List (DrawOp ι)) : Prop where
  covered : ∀ front, front <+: ops →
    front.countP DrawOp.isRestore ≤ front.countP DrawOp.isSave
  settled : ops.countP DrawOp.isRestore = ops.countP DrawOp.isSave

namespace SaveBalanced

variable {ops first second : List (DrawOp ι)}

theorem append (left : SaveBalanced first) (right : SaveBalanced second) :
    SaveBalanced (first ++ second) where
  covered := by
    intro front inside
    rcases List.prefix_or_prefix_of_prefix inside (List.prefix_append first second) with
      within | ⟨rest, rfl⟩
    · exact left.covered front within
    · have beyond := right.covered rest ((List.prefix_append_right_inj first).mp inside)
      have before := left.settled
      simp only [List.countP_append]
      omega
  settled := by
    rw [List.countP_append, List.countP_append, left.settled, right.settled]

/-- Operations that have nothing to do with the stack of saved states. -/
theorem of_plain (plain : ∀ op ∈ ops, op.isSave = false ∧ op.isRestore = false) :
    SaveBalanced ops := by
  have none {part : List (DrawOp ι)} (inside : part ⊆ ops) :
      part.countP DrawOp.isRestore = 0 ∧ part.countP DrawOp.isSave = 0 := by
    constructor <;> rw [List.countP_eq_zero] <;> intro op member
    · simp [(plain op (inside member)).2]
    · simp [(plain op (inside member)).1]
  constructor
  · intro front inside
    have zero := none inside.subset
    omega
  · have zero := none (List.Subset.refl ops)
    omega

private theorem nil : SaveBalanced ([] : List (DrawOp ι)) :=
  .of_plain nofun

theorem single {op : DrawOp ι} (saves : op.isSave = false) (restores : op.isRestore = false) :
    SaveBalanced [op] := by
  apply of_plain
  intro other member
  obtain rfl := List.mem_singleton.mp member
  exact ⟨saves, restores⟩

private theorem cons {op : DrawOp ι} (saves : op.isSave = false) (restores : op.isRestore = false)
    (rest : SaveBalanced ops) : SaveBalanced (op :: ops) :=
  (single saves restores).append rest

/-- Between a save and a restore a balanced list stays balanced. -/
theorem wrap (balanced : SaveBalanced ops) : SaveBalanced (.save :: ops ++ [.restore]) where
  covered := by
    intro front first
    rcases List.prefix_cons_iff.mp first with rfl | ⟨rest, rfl, inside⟩
    · exact Nat.le_refl _
    · rcases List.prefix_or_prefix_of_prefix inside (List.prefix_append ops [.restore]) with
        within | ⟨last, rfl⟩
      · have covered := balanced.covered rest within
        simp only [List.countP_cons, DrawOp.isSave, DrawOp.isRestore, Bool.false_eq_true, if_true,
          if_false]
        omega
      · have short := ((List.prefix_append_right_inj ops).mp inside).length_le
        have few : last.countP DrawOp.isRestore ≤ 1 := Nat.le_trans List.countP_le_length short
        have settled := balanced.settled
        simp only [List.countP_cons, List.countP_append, DrawOp.isSave, DrawOp.isRestore,
          Bool.false_eq_true, if_true, if_false]
        omega
  settled := by
    have settled := balanced.settled
    simp [List.countP_cons, List.countP_append, DrawOp.isSave, DrawOp.isRestore, settled]

end SaveBalanced

/-- What drawing is made of: plain operations, and groups between a save and a restore. -/
inductive Painted : List (DrawOp ι) → Prop
  | nil : Painted []
  | cons {op : DrawOp ι} {rest : List (DrawOp ι)} : op.isPlain = true → Painted rest →
      Painted (op :: rest)
  | group {inner rest : List (DrawOp ι)} : Painted inner → Painted rest →
      Painted (.save :: inner ++ .restore :: rest)

namespace Painted

variable {ops first second : List (DrawOp ι)}

theorem single {op : DrawOp ι} (plain : op.isPlain = true) : Painted [op] :=
  .cons plain .nil

theorem append (left : Painted first) (right : Painted second) : Painted (first ++ second) := by
  induction left with
  | nil => exact right
  | cons plain _ ih => exact .cons plain ih
  | group inner _ _ ih =>
    rw [List.append_assoc, List.cons_append]
    exact .group inner ih

private theorem map {α : Type} {op : α → DrawOp ι} (plain : ∀ a, (op a).isPlain = true)
    (list : List α) : Painted (list.map op) := by
  induction list with
  | nil => exact .nil
  | cons a rest ih => exact .cons (plain a) ih

theorem saveBalanced (painted : Painted ops) : SaveBalanced ops := by
  induction painted with
  | nil => exact .nil
  | @cons op rest plain _ ih =>
    have apart : op.isSave = false ∧ op.isRestore = false := by
      cases op <;> first | exact ⟨rfl, rfl⟩ | cases plain
    exact .cons apart.1 apart.2 ih
  | @group inner rest _ _ ihInner ihRest =>
    have split : .save :: inner ++ .restore :: rest =
        (.save :: inner ++ [.restore]) ++ rest := by simp
    rw [split]
    exact ihInner.wrap.append ihRest

end Painted

section Painting

private theorem painted_steps (outline : Outline Float) :
    Painted (outline.map .path : List (DrawOp ι)) :=
  .map (fun _ => rfl) outline

private theorem painted_strokeOutline (outline : Outline Float) :
    Painted (strokeOutline outline : List (DrawOp ι)) :=
  (Painted.cons rfl (painted_steps outline)).append (.single rfl)

private theorem painted_fillPath (path : Path Float) : Painted (fillPath path : List (DrawOp ι)) :=
  (Painted.cons rfl (painted_steps path.outline)).append (.single rfl)

private theorem painted_strokeAlong (style : PathStyle) (pen : Pen) (outline : Outline Float) :
    Painted (strokeAlong style pen outline : List (DrawOp ι)) := by
  unfold strokeAlong
  split
  · split
    · exact .single rfl
    · exact painted_strokeOutline outline
  · exact painted_strokeOutline outline
  · split
    · exact (Painted.cons rfl (painted_strokeOutline outline)).append (.single rfl)
    · exact painted_strokeOutline outline

private theorem painted_strokePath (path : Path Float) (style : PathStyle) (pen : Pen) :
    Painted ((strokePath? path style pen).getD [] : List (DrawOp ι)) := by
  unfold strokePath?
  split
  · exact .nil
  · cases strokedOutline? path style with
    | none => exact .nil
    | some outline => exact painted_strokeAlong style pen outline

private theorem painted_paintPath (path : Path Float) (style : PathStyle) (pen : Pen) :
    Painted (paintPath path style pen : List (DrawOp ι)) := by
  unfold paintPath beforeStroke
  refine (Painted.append ?_ ?_).append (painted_strokePath path style pen)
  · exact .map (fun _ => rfl) style.extras
  · split
    · exact painted_fillPath path
    · exact .nil

private theorem painted_paintMissingImage (left top width height : Float) :
    Painted (paintMissingImage left top width height : List (DrawOp ι)) := by
  unfold paintMissingImage
  simp only
  generalize (Path.outline _ ++ _ : Outline Float) = outline
  have pens : Painted
      ([.strokeColor missingImageColor, .lineWidth 1.0, .stroke] : List (DrawOp ι)) :=
    .cons rfl (.cons rfl (.single rfl))
  have inner : Painted ((.beginPath :: outline.map .path ++
      [.strokeColor missingImageColor, .lineWidth 1.0, .stroke] : List (DrawOp ι))) :=
    (Painted.cons rfl (painted_steps outline)).append pens
  simpa using inner.group .nil

end Painting

namespace Setting

variable (setting : Setting ι) (entity : EntityRef)

private theorem painted_drawImage (source : String) (left top width height : Float) :
    Painted (setting.drawImage source left top width height).ops := by
  unfold drawImage
  simp only
  split
  · exact .nil
  · exact .single rfl
  · exact painted_paintMissingImage left top width height

/-- What a single instruction leaves behind. -/
theorem painted_execute (state : ScriptState) (instruction : Instruction) :
    Painted (setting.execute entity state instruction).2.ops := by
  cases instruction with
  | ellipse filled center rx ry => exact painted_paintPath _ _ _
  | polygon filled points => exact painted_paintPath _ _ _
  | polyline points => exact painted_paintPath _ _ _
  | spline filled points => exact Painted.nil.append (painted_paintPath _ _ _)
  | image corner width height source => exact setting.painted_drawImage _ _ _ _ _
  | text anchor align width text => exact .nil
  | fillColor literal => exact .single rfl
  | strokeColor literal => exact .single rfl
  | font size family => exact .nil
  | style style =>
    cases style with
    | plain => exact .nil
    | dashed => exact .nil
    | dotted => exact .nil
    | width width => exact .single rfl

theorem painted_executeAll (state : ScriptState) (instructions : List Instruction) :
    Painted (setting.executeAll entity state instructions).ops := by
  induction instructions generalizing state with
  | nil => exact .nil
  | cons instruction rest ih =>
    exact (setting.painted_execute entity state instruction).append (ih _)

end Setting
end XdotViewer
