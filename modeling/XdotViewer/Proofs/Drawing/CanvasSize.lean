import XdotViewer.Proofs.Drawing.Stretches

/-! # The size of the canvas

What is painted neither resizes the canvas nor clears it. So a pass clears the canvas once, over the
size that the canvas should have, and only a full pass resizes it, to the same size.
-/

namespace XdotViewer

variable {ι : Type}

namespace DrawOp

def resized? : DrawOp ι → Option (Nat × Nat)
  | resize width height => some (width, height)
  | _ => none

def cleared? : DrawOp ι → Option (Float × Float)
  | clear _ width height => some (width, height)
  | _ => none

end DrawOp

/-- The extent of a canvas of a size. -/
def extentOf (size : Nat × Nat) : Float × Float :=
  (Float.ofNat size.1, Float.ofNat size.2)

section Last

variable {α : Type} (part : DrawOp ι → Option α)

/-- A part of the last operation that has it. -/
def lastOf? (ops : List (DrawOp ι)) : Option α :=
  (ops.filterMap part).getLast?

/-- The last operation of a kind is in the second part, if there is one. -/
theorem lastOf?_append (first second : List (DrawOp ι)) :
    lastOf? part (first ++ second) = (lastOf? part second).or (lastOf? part first) := by
  rw [lastOf?, List.filterMap_append, List.getLast?_append]
  rfl

/-- What plain operations, saves and restores do not have, nothing that is painted has. -/
theorem Painted.lastOf?_eq_none {ops : List (DrawOp ι)} (painted : Painted ops)
    (silent : ∀ op, op.isPlain = true ∨ op = .save ∨ op = .restore → part op = none) :
    lastOf? part ops = none := by
  have nothing : ops.filterMap part = [] := by
    induction painted with
    | nil => rfl
    | @cons op rest plain _ ih =>
      rw [List.filterMap_cons_none (silent op (.inl plain)), ih]
    | group _ _ ihInner ihRest =>
      rw [List.filterMap_append, List.filterMap_cons_none (silent _ (.inr (.inl rfl))), ihInner,
        List.filterMap_cons_none (silent _ (.inr (.inr rfl))), ihRest, List.append_nil]
  rw [lastOf?, nothing]
  rfl

private theorem Painted.not_resized {ops : List (DrawOp ι)} (painted : Painted ops) :
    lastOf? DrawOp.resized? ops = none := by
  refine painted.lastOf?_eq_none _ ?_
  rintro op (plain | rfl | rfl)
  · cases op <;> first | rfl | cases plain
  · rfl
  · rfl

private theorem Painted.not_cleared {ops : List (DrawOp ι)} (painted : Painted ops) :
    lastOf? DrawOp.cleared? ops = none := by
  refine painted.lastOf?_eq_none _ ?_
  rintro op (plain | rfl | rfl)
  · cases op <;> first | rfl | cases plain
  · rfl
  · rfl

end Last

namespace Setting

variable (setting : Setting ι)

section Passes

variable (full : Bool) (strings : List DrawString)

private theorem painted_blocks :
    Painted (strings.map fun string => (setting.stringBlock string).ops).flatten := by
  induction strings with
  | nil => exact .nil
  | cons string rest ih => exact (setting.painted_block string.entity string.text).append ih

/-- Only a full pass resizes the canvas. -/
theorem resized?_passOps :
    lastOf? DrawOp.resized? (setting.passOps full
        (strings.map fun string => (setting.stringBlock string).ops)) =
      if full then some setting.canvasSize else none := by
  have blocks := (setting.painted_blocks strings).not_resized
  simp only [passOps, lastOf?_append, blocks]
  cases full <;> rfl

/-- Every pass clears the canvas over the size that it should have. -/
theorem cleared?_passOps :
    lastOf? DrawOp.cleared? (setting.passOps full
        (strings.map fun string => (setting.stringBlock string).ops)) =
      some (extentOf setting.canvasSize) := by
  have blocks := (setting.painted_blocks strings).not_cleared
  simp only [passOps, lastOf?_append, blocks]
  cases full <;> rfl

end Passes

end Setting

namespace Drawing

variable (drawing : Drawing ι) (document : Document) (palettes : Palettes) (full : Bool)

/-- A canvas that takes every size. -/
def takesAll (_width _height : Nat) : Bool :=
  true

private theorem pass_eq_passOps : ∃ strings : List DrawString,
    let setting := drawing.setting document palettes
    (drawing.pass takesAll document palettes full).ops =
      setting.passOps full (strings.map fun string => (setting.stringBlock string).ops) := by
  cases full with
  | false => exact ⟨_, Setting.repaint_eq_passOps _⟩
  | true => exact ⟨_, Setting.fullPass_eq_passOps _⟩

/-- A full pass resizes the canvas to the size for document and scale, and a repaint does not resize
it. -/
theorem resized?_pass :
    lastOf? DrawOp.resized? (drawing.pass takesAll document palettes full).ops =
      if full then some (drawing.canvasSize document) else none := by
  obtain ⟨strings, drawn⟩ := drawing.pass_eq_passOps document palettes full
  rw [drawn, Setting.resized?_passOps]
  rfl

/-- Every pass clears the canvas over the size for document and scale. -/
theorem cleared?_pass :
    lastOf? DrawOp.cleared? (drawing.pass takesAll document palettes full).ops =
      some (extentOf (drawing.canvasSize document)) := by
  obtain ⟨strings, drawn⟩ := drawing.pass_eq_passOps document palettes full
  rw [drawn, Setting.cleared?_passOps]
  rfl

end Drawing
end XdotViewer
