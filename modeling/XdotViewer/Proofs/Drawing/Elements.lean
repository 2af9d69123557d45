import XdotViewer.Proofs.Drawing.Stretches

/-! # What the instructions of an entity leave behind

Besides painting, an instruction adds at most one thing to a trace: a text that is laid over the
canvas, or an image source that is needed. So the texts and the sources of an entity are picked, in
order, from the stretches of its scripts.
-/

namespace XdotViewer

private theorem trim_eq_nil_iff {text : List Char} : trim text = [] ↔ text.all isBlank = true := by
  rw [List.all_eq_true, ← trimStart_eq_nil_iff]
  constructor
  · intro empty
    have blank : ∀ c ∈ (trimStart text).reverse, isBlank c = true :=
      trimStart_eq_nil_iff.mp (List.reverse_eq_nil_iff.mp empty)
    rw [← trimStart_trimStart, trimStart_eq_nil_iff]
    exact fun c member => blank c (List.mem_reverse.mpr member)
  · intro empty
    rw [trim, empty]
    rfl

namespace Scene

private theorem entity_of_mem_stringsOf {s : Scene} {entity : EntityRef} {string : DrawString}
    (member : string ∈ s.stringsOf entity) : string.entity = entity := by
  unfold stringsOf at member
  split at member
  · obtain ⟨attr, -, rfl⟩ := List.mem_map.mp member
    rfl
  · cases member

end Scene

namespace Setting

variable {ι α : Type}

/-- The stretches of all scripts of an entity. -/
def entityStretches (setting : Setting ι) (entity : EntityRef) : List (Stretch ι) :=
  (setting.scene.stringsOf entity).flatMap setting.stringStretches

/-- A part of traces to which an instruction adds what is picked for it, and nothing else does. -/
structure Picks (setting : Setting ι) (part : Trace ι → List α) (pick : Stretch ι → Option α) :
    Prop where
  empty : part ∅ = []
  append : ∀ a b, part (a ++ b) = part a ++ part b
  ops : ∀ ops, part (.ofOps ops) = []
  reports : ∀ diagnostics, part (.ofDiagnostics diagnostics) = []
  frame : ∀ ops, pick (.frame ops) = none
  execute : ∀ entity state instruction, part (setting.execute entity state instruction).2 =
    (pick (.instruction entity state instruction)).toList

namespace Picks

variable {setting : Setting ι} {part : Trace ι → List α} {pick : Stretch ι → Option α}

private theorem executeAll (picks : setting.Picks part pick) (entity : EntityRef)
    (state : ScriptState)
    (instructions : List Instruction) :
    part (setting.executeAll entity state instructions) =
      (setting.instructionStretches entity state instructions).filterMap pick := by
  induction instructions generalizing state with
  | nil => exact picks.empty
  | cons instruction rest ih =>
    have whole : setting.executeAll entity state (instruction :: rest) =
        (setting.execute entity state instruction).2 ++
          setting.executeAll entity (setting.execute entity state instruction).1 rest := rfl
    rw [whole, picks.append, picks.execute, ih, instructionStretches, List.filterMap_cons]
    cases pick (.instruction entity state instruction) <;> rfl

/-- A script adds what its stretches are picked for. -/
theorem stringBlock (picks : setting.Picks part pick) (string : DrawString) :
    part (setting.stringBlock string) = (setting.stringStretches string).filterMap pick := by
  by_cases empty : (Script.read string.text).isEmpty = true
  · rw [Setting.stringBlock, block, if_pos empty, stringStretches, if_pos empty, picks.empty]
    rfl
  · rw [Setting.stringBlock, block, if_neg empty, stringStretches, if_neg empty]
    simp only [picks.append, picks.ops, picks.reports, picks.executeAll, List.nil_append,
      List.append_nil, List.cons_append, List.filterMap_cons, picks.frame, List.filterMap_append,
      List.filterMap_nil]

/-- Joined traces add what each of them adds. -/
theorem join (picks : setting.Picks part pick) (traces : List (Trace ι)) :
    part (Trace.join traces) = traces.flatMap part := by
  induction traces with
  | nil => exact picks.empty
  | cons a rest ih =>
    have whole : Trace.join (a :: rest) = a ++ Trace.join rest := rfl
    rw [whole, picks.append, ih, List.flatMap_cons]

/-- An entity adds what the stretches of its scripts are picked for. -/
theorem drawEntity (picks : setting.Picks part pick) (entity : EntityRef) :
    part (setting.drawEntity entity) = (setting.entityStretches entity).filterMap pick := by
  rw [drawEntity_eq_join, picks.join, List.flatMap_map, entityStretches, List.filterMap_flatMap]
  exact congrArg (List.flatMap · _) (funext picks.stringBlock)

end Picks

/-- The text that a stretch lays over the canvas: that of a text instruction, unless it is blank. -/
def shownText? (setting : Setting ι) : Stretch ι → Option TextElement
  | .instruction entity state (.text anchor align width text) =>
    if text.toList.all isBlank then none
    else some (setting.textElement entity state anchor align width text)
  | _ => none

/-- The image source that a stretch needs. -/
def neededSource? : Stretch ι → Option String
  | .instruction _ _ (.image _ _ _ source) => some source
  | _ => none

variable (setting : Setting ι)

/-- Texts are added by text instructions only. -/
theorem picks_texts : setting.Picks Trace.texts setting.shownText? where
  empty := rfl
  append _ _ := rfl
  ops _ := rfl
  reports _ := rfl
  frame _ := rfl
  execute := by
    intro entity state instruction
    cases instruction with
    | text anchor align width text =>
      simp only [execute, shownText?, trim_eq_nil_iff]
      split <;> rfl
    | image corner width height source =>
      simp only [execute, drawImage]
      split <;> rfl
    | style style => cases style <;> rfl
    | _ => rfl

/-- Image sources are needed by image instructions only. -/
theorem picks_sources : setting.Picks Trace.sources neededSource? where
  empty := rfl
  append _ _ := rfl
  ops _ := rfl
  reports _ := rfl
  frame _ := rfl
  execute := by
    intro entity state instruction
    cases instruction with
    | style style => cases style <;> rfl
    | _ => rfl

/-- The texts of an entity, in the order in which they are come upon. -/
def textsOf (entity : EntityRef) : List TextElement :=
  (setting.entityStretches entity).filterMap setting.shownText?

/-- The image sources that an entity needs, as often as it does. -/
def sourcesOf (entity : EntityRef) : List String :=
  (setting.entityStretches entity).filterMap neededSource?

private theorem entity_of_mem_instructionStretches {entity owner : EntityRef}
    {start state : ScriptState}
    {instruction : Instruction} {instructions : List Instruction}
    (member : .instruction owner state instruction ∈
      setting.instructionStretches entity start instructions) : owner = entity := by
  induction instructions generalizing start with
  | nil => cases member
  | cons first rest ih =>
    rcases List.mem_cons.mp member with here | later
    · cases here
      rfl
    · exact ih later

private theorem entity_of_mem_stringStretches {string : DrawString} {owner : EntityRef}
    {state : ScriptState} {instruction : Instruction}
    (member : .instruction owner state instruction ∈ setting.stringStretches string) :
    owner = string.entity := by
  simp only [stringStretches] at member
  split at member
  · cases member
  · simp only [List.cons_append, List.mem_cons, List.mem_append, List.not_mem_nil, or_false,
      reduceCtorEq, false_or] at member
    exact setting.entity_of_mem_instructionStretches member

/-- The texts of an entity are labelled with it. -/
theorem entity_of_mem_textsOf {entity : EntityRef} {text : TextElement}
    (member : text ∈ setting.textsOf entity) : text.entity = entity := by
  obtain ⟨stretch, executed, shown⟩ := List.mem_filterMap.mp member
  obtain ⟨string, listed, here⟩ := List.mem_flatMap.mp executed
  unfold shownText? at shown
  split at shown
  · rename_i owner state anchor align width content
    have own : owner = entity :=
      (setting.entity_of_mem_stringStretches here).trans (Scene.entity_of_mem_stringsOf listed)
    split at shown
    · cases shown
    · obtain rfl := Option.some.inj shown
      exact own
  · cases shown

end Setting
end XdotViewer
