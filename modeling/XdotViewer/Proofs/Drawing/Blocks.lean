import XdotViewer.Drawing.Pass
import XdotViewer.Proofs.Drawing.DrawStrings
import XdotViewer.Proofs.Drawing.SaveRestore
import XdotViewer.Proofs.Script.Faults

/-! # Blocks

A pass draws one block for each draw string. What a block looks like is known from its string
alone, down to a string that cannot be read to its end; and it does not change when other strings
are replaced.
-/

namespace XdotViewer

namespace Trace

variable {ι : Type}

private theorem empty_append (a : Trace ι) : ∅ ++ a = a := rfl

theorem append_assoc (a b c : Trace ι) : a ++ b ++ c = a ++ (b ++ c) := by
  change Trace.mk _ _ _ _ _ _ = Trace.mk _ _ _ _ _ _
  congr 1
  all_goals first | exact List.append_assoc _ _ _ | exact Bool.or_assoc _ _ _

private theorem join_append (first second : List (Trace ι)) :
    join (first ++ second) = join first ++ join second := by
  induction first with
  | nil => rfl
  | cons a rest ih =>
    change a ++ join (rest ++ second) = a ++ join rest ++ join second
    rw [ih, append_assoc]

private theorem join_flatMap {α : Type} (list : List α) (traces : α → List (Trace ι)) :
    join (list.flatMap traces) = join (list.map fun a => join (traces a)) := by
  induction list with
  | nil => rfl
  | cons a rest ih => rw [List.flatMap_cons, join_append, ih]; rfl

/-- What leaves nothing behind need not be drawn. -/
theorem join_map_filter {α : Type} (list : List α) {keep : α → Bool} {trace : α → Trace ι}
    (silent : ∀ a, keep a = false → trace a = ∅) :
    join ((list.filter keep).map trace) = join (list.map trace) := by
  induction list with
  | nil => rfl
  | cons a rest ih =>
    have whole : join ((a :: rest).map trace) = trace a ++ join (rest.map trace) := rfl
    cases kept : keep a with
    | true =>
      rw [List.filter_cons_of_pos kept, whole, ← ih]
      rfl
    | false =>
      rw [List.filter_cons_of_neg (by simp [kept]), whole, silent a kept, empty_append, ih]

/-- The operations of joined traces follow each other. -/
theorem ops_join (traces : List (Trace ι)) : (join traces).ops = traces.flatMap Trace.ops := by
  induction traces with
  | nil => rfl
  | cons a rest ih => rw [List.flatMap_cons, ← ih]; rfl

/-- The reports of joined traces follow each other. -/
theorem diagnostics_join (traces : List (Trace ι)) :
    (join traces).diagnostics = traces.flatMap Trace.diagnostics := by
  induction traces with
  | nil => rfl
  | cons a rest ih => rw [List.flatMap_cons, ← ih]; rfl

end Trace

namespace Setting

variable {ι : Type} (setting : Setting ι)

section Strings

/-- The trace of a draw string. -/
def stringBlock (string : DrawString) : Trace ι :=
  setting.block string.entity string.text

/-- An entity is drawn string by string. -/
theorem drawEntity_eq_join (entity : EntityRef) : setting.drawEntity entity =
    Trace.join ((setting.scene.stringsOf entity).map setting.stringBlock) := by
  unfold drawEntity Scene.stringsOf
  cases setting.scene.entity? entity with
  | none => rfl
  | some data =>
    simp only [List.map_map]
    rfl

/-- Drawing entities is drawing their draw strings. -/
theorem join_drawEntity (entities : List EntityRef) :
    Trace.join (entities.map setting.drawEntity) =
      Trace.join ((entities.flatMap setting.scene.stringsOf).map setting.stringBlock) := by
  rw [List.map_flatMap, Trace.join_flatMap]
  exact congrArg (fun trace => Trace.join (entities.map trace)) (funext setting.drawEntity_eq_join)

/-- The entities that are drawn have all the draw strings. -/
theorem join_drawnEntities :
    Trace.join (setting.drawnEntities.map setting.drawEntity) =
      Trace.join (setting.scene.drawStrings.map setting.stringBlock) := by
  have silent (entity : EntityRef) (none : setting.hasScripts entity = false) :
      setting.drawEntity entity = ∅ := by
    unfold hasScripts at none
    unfold drawEntity
    cases data : setting.scene.entity? entity with
    | none => rfl
    | some data' =>
      rw [data] at none
      have empty : data'.drawAttrs.entries = [] := by
        simpa [OrderedMap.isEmpty] using none
      simp only [empty, List.map_nil]
      rfl
  rw [drawnEntities, Trace.join_map_filter _ silent, join_drawEntity, Scene.drawStrings]

end Strings

section Shape

variable (entity : EntityRef)

/-- A text of blanks has no word. -/
theorem takeWord_ofText_eq_none {text : List Char} :
    (Cursor.ofText text).takeWord.1 = none ↔ ∀ c ∈ text, isBlank c = true := by
  rw [← trimStart_eq_nil_iff]
  cases next : trimStart text with
  | nil => simp [Cursor.takeWord, Cursor.ofText, next]
  | cons c rest =>
    have visible : isBlank c = false := head_trimStart_not_blank next
    simp [Cursor.takeWord, Cursor.ofText, next, visible]

/-- A script says nothing exactly if there is no word in it. -/
theorem isEmpty_read {text : String} :
    (Script.read text).isEmpty = true ↔ ∀ c ∈ text.toList, isBlank c = true := by
  rw [← takeWord_ofText_eq_none]
  obtain ⟨final, reads, ended⟩ := exists_reads (.ofText text.toList)
  constructor
  · intro empty
    simp only [Script.isEmpty, Bool.and_eq_true, List.isEmpty_iff, Option.isNone_iff_eq_none]
      at empty
    obtain ⟨silent, sound⟩ := empty
    change (Script.readFrom _).instructions = [] at silent
    change (Script.readFrom _).fault = none at sound
    rw [silent] at reads
    rw [sound] at ended
    cases reads
    exact ended
  · intro none
    rcases taken : (Cursor.ofText text.toList).takeWord with ⟨word, after⟩
    obtain rfl : word = .none := by simpa [taken] using none
    rw [Script.read, readFrom_of_end taken]
    rfl

/-- The operations of a block whose string has a word, around those of its instructions. -/
def blockOps (instructions : List Instruction) : List (DrawOp ι) :=
  [.save, .fillColor .black, .strokeColor .black, .lineWidth 1.0] ++
    (setting.executeAll entity {} instructions).ops ++ [.restore]

/-- The reports on instructions, and the one on the fault that ends them. -/
def blockReports (instructions : List Instruction) (fault : Option Fault) : List Diagnostic :=
  (setting.executeAll entity {} instructions).diagnostics ++
    fault.toList.map (faultDiagnostic (setting.scene.nameOf entity))

/-- A script that says something is drawn between a fresh pen and the restored canvas, and its fault
is reported last. -/
theorem block_of_filled {text : String} (filled : ¬ (Script.read text).isEmpty = true) :
    (setting.block entity text).ops = setting.blockOps entity (Script.read text).instructions ∧
      (setting.block entity text).diagnostics =
        setting.blockReports entity (Script.read text).instructions (Script.read text).fault := by
  rw [block, if_neg filled]
  constructor
  · simp only [Trace.ops_append]
    change (_ ++ _ ++ []) ++ _ = _
    rw [List.append_nil]
    rfl
  · simp only [Trace.diagnostics_append]
    change ([] ++ _ ++ _) ++ [] = _
    rw [List.append_nil, List.nil_append]
    rfl

/-- What can be known of a block from its string. -/
structure BlockForm (text : String) : Prop where
  /-- Without a word there is nothing to draw. -/
  blank : (∀ c ∈ text.toList, isBlank c = true) → (setting.block entity text).ops = []
  /-- With one, the instructions are drawn with a fresh pen. -/
  filled : ¬ (∀ c ∈ text.toList, isBlank c = true) →
    (setting.block entity text).ops = setting.blockOps entity (Script.read text).instructions
  balanced : SaveBalanced (setting.block entity text).ops
  /-- A fatal instruction is reported, and those before it are drawn. -/
  fatal : ∀ instructions cursor fault, Reads (.ofText text.toList) instructions cursor →
    Fatal cursor fault →
      (setting.block entity text).ops = setting.blockOps entity instructions ∧
      (setting.block entity text).diagnostics =
        setting.blockReports entity instructions (some fault)
  /-- Where an instruction is stuck, what follows does not count. -/
  stuck : ∀ instructions cursor fault more, Reads (.ofText text.toList) instructions cursor →
    Stuck cursor fault → Apart more.toList →
      setting.block entity (text ++ more) = setting.block entity text

/-- A block is a group, unless its script says nothing. -/
theorem painted_block (text : String) : Painted (setting.block entity text).ops := by
  by_cases empty : (Script.read text).isEmpty = true
  · rw [block, if_pos empty]
    exact .nil
  · rw [(setting.block_of_filled entity empty).1]
    have pens : Painted ([.fillColor .black, .strokeColor .black, .lineWidth 1.0] :
        List (DrawOp ι)) :=
      .cons rfl (.cons rfl (.single rfl))
    exact (pens.append (setting.painted_executeAll entity {} _)).group .nil

/-- All this holds of every block. -/
theorem blockForm (text : String) : setting.BlockForm entity text where
  blank blank := by rw [block, if_pos (isEmpty_read.mpr blank)]; rfl
  filled word := (setting.block_of_filled entity (mt isEmpty_read.mp word)).1
  balanced := (setting.painted_block entity text).saveBalanced
  fatal := by
    intro instructions cursor fault reads fatal
    have script := Script.read_of_fatal reads fatal
    have filled : ¬ (Script.read text).isEmpty = true := by
      simp [script, Script.isEmpty]
    have known := setting.block_of_filled entity filled
    rwa [script] at known
  stuck := by
    intro instructions cursor fault more reads stuck apart
    have short := Script.read_of_fatal reads stuck.fatal
    have long := Script.read_append_of_stuck reads stuck apart
    rw [block, block, short, long]

end Shape

end Setting
end XdotViewer
