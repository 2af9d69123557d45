import XdotViewer.Proofs.Script.Extension

/-! # Where a script ends early

A script is read up to the first instruction that is fatal, and is what stands before it. An
instruction is stuck when it is fatal because of a word that is there, and not because something is
missing at the end: then nothing that follows can change the script.
-/

namespace XdotViewer

/-- The instructions between two places in a script. -/
inductive Reads : Cursor → List Instruction → Cursor → Prop
  | nil (cursor : Cursor) : Reads cursor [] cursor
  | cons {cursor after rest final : Cursor} {word : List Char} {op : OpCode}
      {instruction : Instruction} {more : List Instruction} :
      cursor.takeWord = (some word, after) → OpCode.ofWord? word = some op →
      Instruction.read op after = (.ok instruction, rest) → Reads rest more final →
      Reads cursor (instruction :: more) final

/-- The next instruction cannot be read. -/
inductive Fatal (cursor : Cursor) : Fault → Prop
  | op {word : List Char} {after : Cursor} : cursor.takeWord = (some word, after) →
      OpCode.ofWord? word = none → Fatal cursor (.unknownOp (.ofList word))
  | operands {word : List Char} {after rest : Cursor} {op : OpCode} {fault : Fault} :
      cursor.takeWord = (some word, after) → OpCode.ofWord? word = some op →
      Instruction.read op after = (.error fault, rest) → Fatal cursor fault

section Runs

variable {cursor final : Cursor} {instructions : List Instruction} {fault : Fault}

private theorem readFrom_of_fatal (fatal : Fatal cursor fault) :
    Script.readFrom cursor = ⟨[], some fault⟩ := by
  cases fatal with
  | op taken unknown =>
    rw [Script.readFrom]
    split
    · rename_i none
      rw [taken] at none
      cases none
    · rename_i word after found
      rw [taken] at found
      cases found
      rw [unknown]
  | operands taken known failed =>
    rw [Script.readFrom]
    split
    · rename_i none
      rw [taken] at none
      cases none
    · rename_i word after found
      rw [taken] at found
      cases found
      rw [known]
      simp only
      split
      · rename_i other failed'
        rw [failed] at failed'
        cases failed'
        rfl
      · rename_i done
        rw [failed] at done
        cases done

/-- Where no word is left, nothing is read. -/
theorem readFrom_of_end {after : Cursor} (ended : cursor.takeWord = (none, after)) :
    Script.readFrom cursor = .empty := by
  rw [Script.readFrom]
  split
  · rfl
  · rename_i found
    rw [ended] at found
    cases found

/-- An instruction that can be read is followed by what is read behind it. -/
theorem readFrom_of_read {after rest : Cursor} {word : List Char} {op : OpCode}
    {instruction : Instruction} (taken : cursor.takeWord = (some word, after))
    (known : OpCode.ofWord? word = some op)
    (done : Instruction.read op after = (.ok instruction, rest)) :
    Script.readFrom cursor =
      ⟨instruction :: (Script.readFrom rest).instructions, (Script.readFrom rest).fault⟩ := by
  rw [Script.readFrom]
  split
  · rename_i none
    rw [taken] at none
    cases none
  · rename_i word after found
    rw [taken] at found
    cases found
    rw [known]
    simp only
    split
    · rename_i failed
      rw [done] at failed
      cases failed
    · rename_i other left found
      rw [done] at found
      cases found
      rfl

/-- A script goes on after the instructions that have been read. -/
theorem readFrom_of_reads (reads : Reads cursor instructions final) :
    Script.readFrom cursor =
      ⟨instructions ++ (Script.readFrom final).instructions, (Script.readFrom final).fault⟩ := by
  induction reads with
  | nil => rfl
  | cons taken known done _ ih => rw [readFrom_of_read taken known done, ih, List.cons_append]

/-- Up to a fatal instruction a script is what has been read, whatever stands behind it. -/
theorem readFrom_of_reads_fatal (reads : Reads cursor instructions final)
    (fatal : Fatal final fault) : Script.readFrom cursor = ⟨instructions, some fault⟩ := by
  rw [readFrom_of_reads reads, readFrom_of_fatal fatal, List.append_nil]

/-- Every script is read to its end, or up to an instruction that is fatal. -/
theorem exists_reads (cursor : Cursor) :
    ∃ final, Reads cursor (Script.readFrom cursor).instructions final ∧
      match (Script.readFrom cursor).fault with
      | none => final.takeWord.1 = none
      | some fault => Fatal final fault := by
  fun_induction Script.readFrom cursor with
  | case1 cursor after ended => exact ⟨cursor, .nil cursor, congrArg Prod.fst ended⟩
  | case2 cursor word after taken unknown => exact ⟨cursor, .nil cursor, .op taken unknown⟩
  | case3 cursor word after taken op known fault rest failed =>
    exact ⟨cursor, .nil cursor, .operands taken known failed⟩
  | case4 cursor word after taken op known instruction rest done script ih =>
    obtain ⟨final, reads, ended⟩ := ih
    exact ⟨final, .cons taken known done reads, ended⟩

end Runs

section Words

/-- The finite number that a word stands for. -/
def finite? (word : List Char) : Option Float :=
  (readFloat? word).filter Float.isFinite

/-- The count that a word stands for. -/
def count? (word : List Char) : Option Nat :=
  match (finite? word).bind fun number => (Binary64.ofFloat number).toWhole? with
  | some (.ofNat count) => some count
  | _ => none

namespace Cursor

/-- One of the next `count` words stands for no number. -/
def BadNumbers : Nat → Cursor → Prop
  | 0, _ => False
  | count + 1, cursor => ∃ word after, cursor.takeWord = (some word, after) ∧
      (finite? word = none ∨ BadNumbers count after)

/-- The next word stands for no count, or one of the coordinates that it counts for no number. -/
def BadPoints (cursor : Cursor) : Prop :=
  ∃ word after, cursor.takeWord = (some word, after) ∧
    ∀ count, count? word = some count → BadNumbers (2 * count) after

/-- The next word announces no string. -/
def BadString (cursor : Cursor) : Prop :=
  ∃ word after, cursor.takeWord = (some word, after) ∧
    (readWord? word = none ∨ ∃ c rest, after.rest = c :: rest ∧ c ≠ '-')

variable {cursor after : Cursor} {more : List Char}

theorem takeNumber_of_takeWord {word : List Char} (taken : cursor.takeWord = (some word, after)) :
    cursor.takeNumber = (finite? word, after) := by
  rw [takeNumber, taken]
  rfl

private theorem BadNumbers.takeNumbers {count : Nat} (bad : BadNumbers count cursor) :
    (cursor.takeNumbers count).1 = none := by
  induction count generalizing cursor with
  | zero => cases bad
  | succ count ih =>
    obtain ⟨word, after, taken, cause⟩ := bad
    have number := takeNumber_of_takeWord taken
    cases read : finite? word with
    | none => simp [Cursor.takeNumbers, number, read]
    | some value =>
      have later := ih (cause.resolve_left (by simp [read]))
      simp [Cursor.takeNumbers, number, read, later]

private theorem BadPoints.takePoints (bad : BadPoints cursor) : cursor.takePoints.1 = none := by
  obtain ⟨word, after, taken, numbers⟩ := bad
  rcases counted : cursor.takeCount with ⟨count, left⟩
  cases count with
  | none => rw [Cursor.takePoints, counted]
  | some count =>
    obtain ⟨number, read, whole, _⟩ := takeCount_eq_some.mp counted
    rw [takeNumber_of_takeWord taken] at read
    obtain ⟨value, rfl⟩ := Prod.mk.inj read
    have bad : after.BadNumbers (2 * count) := numbers count (by simp [count?, value, whole])
    simp [Cursor.takePoints, counted, bad.takeNumbers]

private theorem BadString.takeString (bad : BadString cursor) : cursor.takeString.1 = none := by
  obtain ⟨word, after, taken, cause⟩ := bad
  rw [Cursor.takeString, taken]
  simp only
  split
  · rename_i count payload announced next
    rcases cause with none | ⟨c, rest, shape, other⟩
    · rw [none] at announced
      cases announced
    · rw [shape] at next
      exact absurd (List.cons.inj next).1 other
  · rfl

private theorem BadNumbers.extend (apart : Apart more) {count : Nat}
    (bad : BadNumbers count cursor) :
    BadNumbers count (cursor.extend more) := by
  induction count generalizing cursor with
  | zero => cases bad
  | succ count ih =>
    obtain ⟨word, after, taken, cause⟩ := bad
    exact ⟨word, _, takeWord_extend taken apart, cause.imp_right ih⟩

private theorem BadPoints.extend (apart : Apart more) (bad : BadPoints cursor) :
    BadPoints (cursor.extend more) := by
  obtain ⟨word, after, taken, numbers⟩ := bad
  exact ⟨word, _, takeWord_extend taken apart, fun count known =>
    (numbers count known).extend apart⟩

private theorem BadString.extend (apart : Apart more) (bad : BadString cursor) :
    BadString (cursor.extend more) := by
  obtain ⟨word, after, taken, cause⟩ := bad
  refine ⟨word, _, takeWord_extend taken apart, cause.imp_right ?_⟩
  rintro ⟨c, rest, next, other⟩
  obtain ⟨_, _, rfl⟩ := takeWord_eq_some taken
  exact ⟨c, rest ++ more, rest_extend next (head_trimStart_not_blank next), other⟩

end Cursor

/-- A word among the operands cannot be read, and the operation fails for it. -/
def OpCode.Malformed (cursor : Cursor) : OpCode → Prop
  | .ellipse _ => cursor.BadNumbers 4
  | .polygon _ | .polyline | .spline _ => cursor.BadPoints
  | .image | .text =>
    cursor.BadNumbers 4 ∨ ∃ quad after, cursor.takeQuad = (some quad, after) ∧ after.BadString
  | .fillColor | .strokeColor | .style => cursor.BadString
  | .font =>
    cursor.BadNumbers 1 ∨ ∃ size after, cursor.takeNumber = (some size, after) ∧ after.BadString

namespace OpCode.Malformed

open Instruction

variable {op : OpCode} {cursor after : Cursor} {more : List Char}

private theorem complete_of_none {α : Type} {taken : Option α × Cursor} (make : α → Instruction)
    (none : taken.1 = .none) :
    ∃ rest, complete op taken make = (.error (.missingOperand op), rest) := by
  rw [complete, none]
  exact ⟨_, rfl⟩

private theorem takeQuad_of_bad (bad : cursor.BadNumbers 4) : cursor.takeQuad.1 = none := by
  rcases result : cursor.takeNumbers 4 with ⟨numbers, left⟩
  obtain rfl : numbers = none := by simpa [result] using bad.takeNumbers
  rw [Cursor.takeQuad, result]

private theorem takePlacement_of_bad (bad : cursor.BadNumbers 4 ∨
    ∃ quad after, cursor.takeQuad = (some quad, after) ∧ after.BadString) :
    cursor.takePlacement.1 = none := by
  rcases bad with bad | ⟨quad, after, placed, bad⟩
  · rcases result : cursor.takeQuad with ⟨quad, left⟩
    obtain rfl : quad = none := by simpa [result] using takeQuad_of_bad bad
    rw [Cursor.takePlacement, result]
  · simp [Cursor.takePlacement, placed, bad.takeString]

private theorem takeFont_of_bad (bad : cursor.BadNumbers 1 ∨
    ∃ size after, cursor.takeNumber = (some size, after) ∧ after.BadString) :
    cursor.takeFont.1 = none := by
  rcases bad with ⟨word, after, taken, bad⟩ | ⟨size, after, sized, bad⟩
  · have number := Cursor.takeNumber_of_takeWord taken
    rw [bad.resolve_right nofun] at number
    rw [Cursor.takeFont, number]
  · simp [Cursor.takeFont, sized, bad.takeString]

/-- An operation fails where one of its operands is malformed. -/
theorem read (malformed : op.Malformed cursor) :
    ∃ rest, Instruction.read op cursor = (.error (.missingOperand op), rest) := by
  cases op with
  | ellipse filled => exact complete_of_none _ (takeQuad_of_bad malformed)
  | polygon filled => exact complete_of_none _ (Cursor.BadPoints.takePoints malformed)
  | polyline => exact complete_of_none _ (Cursor.BadPoints.takePoints malformed)
  | spline filled => exact complete_of_none _ (Cursor.BadPoints.takePoints malformed)
  | image => exact complete_of_none _ (takePlacement_of_bad malformed)
  | text => exact complete_of_none _ (takePlacement_of_bad malformed)
  | fillColor => exact complete_of_none _ (Cursor.BadString.takeString malformed)
  | strokeColor => exact complete_of_none _ (Cursor.BadString.takeString malformed)
  | font => exact complete_of_none _ (takeFont_of_bad malformed)
  | style =>
    rcases result : cursor.takeString with ⟨name, left⟩
    obtain rfl : name = none := by simpa [result] using Cursor.BadString.takeString malformed
    exact ⟨left, by rw [Instruction.read, result]⟩

/-- What follows cannot mend an operand. -/
theorem extend (apart : Apart more) (malformed : op.Malformed cursor) :
    op.Malformed (cursor.extend more) := by
  have placement (bad : cursor.BadNumbers 4 ∨
      ∃ quad after, cursor.takeQuad = (some quad, after) ∧ after.BadString) :
      (cursor.extend more).BadNumbers 4 ∨ ∃ quad after,
        (cursor.extend more).takeQuad = (some quad, after) ∧ after.BadString := by
    apply bad.imp (Cursor.BadNumbers.extend apart)
    rintro ⟨quad, after, placed, bad⟩
    exact ⟨quad, _, Cursor.takeQuad_extend apart placed, bad.extend apart⟩
  cases op with
  | ellipse filled => exact Cursor.BadNumbers.extend apart malformed
  | polygon filled => exact Cursor.BadPoints.extend apart malformed
  | polyline => exact Cursor.BadPoints.extend apart malformed
  | spline filled => exact Cursor.BadPoints.extend apart malformed
  | image => exact placement malformed
  | text => exact placement malformed
  | fillColor => exact Cursor.BadString.extend apart malformed
  | strokeColor => exact Cursor.BadString.extend apart malformed
  | style => exact Cursor.BadString.extend apart malformed
  | font =>
    refine Or.imp (Cursor.BadNumbers.extend apart) ?_ malformed
    rintro ⟨size, after, sized, bad⟩
    exact ⟨size, _, Cursor.takeNumber_extend apart sized, bad.extend apart⟩

end OpCode.Malformed

end Words

section Stuck

/-- The next instruction is fatal for what is there of it: the word that begins it stands for no
operation, it asks for a style that there is not, or one of its operands is malformed. -/
inductive Stuck (cursor : Cursor) : Fault → Prop
  | op {word : List Char} {after : Cursor} : cursor.takeWord = (some word, after) →
      OpCode.ofWord? word = none → Stuck cursor (.unknownOp (.ofList word))
  | style {word name : List Char} {after rest : Cursor} :
      cursor.takeWord = (some word, after) → OpCode.ofWord? word = some .style →
      after.takeString = (some name, rest) → LineStyle.ofText? name = none →
      Stuck cursor (.unknownStyle (.ofList name))
  | operand {word : List Char} {after : Cursor} {op : OpCode} :
      cursor.takeWord = (some word, after) → OpCode.ofWord? word = some op →
      op.Malformed after → Stuck cursor (.missingOperand op)

namespace Stuck

variable {cursor : Cursor} {fault : Fault} {more : List Char}

/-- A stuck instruction is fatal. -/
theorem fatal (stuck : Stuck cursor fault) : Fatal cursor fault := by
  cases stuck with
  | op taken unknown => exact .op taken unknown
  | style taken known named unknown =>
    exact .operands taken known (by rw [Instruction.read, named]; simp only [unknown]; rfl)
  | operand taken known malformed =>
    obtain ⟨rest, failed⟩ := malformed.read
    exact .operands taken known failed

/-- A stuck instruction stays stuck, whatever is added after a blank. -/
theorem extend (apart : Apart more) (stuck : Stuck cursor fault) :
    Stuck (cursor.extend more) fault := by
  cases stuck with
  | op taken unknown => exact .op (Cursor.takeWord_extend taken apart) unknown
  | style taken known named unknown =>
    exact .style (Cursor.takeWord_extend taken apart) known (Cursor.takeString_extend apart named)
      unknown
  | operand taken known malformed =>
    exact .operand (Cursor.takeWord_extend taken apart) known (malformed.extend apart)

end Stuck

private theorem Reads.extend {cursor final : Cursor} {instructions : List Instruction}
    {more : List Char}
    (apart : Apart more) (reads : Reads cursor instructions final) :
    Reads (cursor.extend more) instructions (final.extend more) := by
  induction reads with
  | nil cursor => exact .nil _
  | cons taken known done _ ih =>
    exact .cons (Cursor.takeWord_extend taken apart) known (Instruction.read_extend apart done) ih

namespace Script

variable {text more : String} {instructions : List Instruction} {cursor : Cursor} {fault : Fault}

/-- A script ends with the first fatal instruction. -/
theorem read_of_fatal (reads : Reads (.ofText text.toList) instructions cursor)
    (fatal : Fatal cursor fault) : read text = ⟨instructions, some fault⟩ :=
  readFrom_of_reads_fatal reads fatal

/-- A script that is stuck says the same however it goes on. -/
theorem read_append_of_stuck (reads : Reads (.ofText text.toList) instructions cursor)
    (stuck : Stuck cursor fault) (apart : Apart more.toList) :
    read (text ++ more) = ⟨instructions, some fault⟩ := by
  have longer := reads.extend apart
  rw [Cursor.extend_ofText, ← String.toList_append] at longer
  exact readFrom_of_reads_fatal longer (stuck.extend apart).fatal

end Script

end Stuck

end XdotViewer
