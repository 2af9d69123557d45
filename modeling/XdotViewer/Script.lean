import XdotViewer.Script.Cursor
import XdotViewer.Script.Instruction

/-! # Scripts

A script is a sequence of instructions, each a word for the operation and its operands. The first
instruction that cannot be read ends the script; those before it stand.
-/

namespace XdotViewer

namespace LineStyle

def widthOpening : List Char := "setlinewidth(".toList

/-- The text between the parentheses of a line width; it may not hold a line break. -/
def widthText? (text : List Char) : Option (List Char) :=
  if widthOpening.isPrefixOf text then
    let operand := text.drop widthOpening.length
    if operand.getLast? = some ')' ∧ '\n' ∉ operand then some operand.dropLast else none
  else none

def ofText? (text : List Char) : Option LineStyle :=
  match String.ofList text with
  | "solid" => some plain
  | "filled" => some plain
  | "dashed" => some dashed
  | "dotted" => some dotted
  | "bold" => some (width boldWidth)
  | _ => (widthText? text).bind fun operand => (readFloat? (trim operand)).map width

end LineStyle

namespace Cursor

/-- Takes four numbers. -/
def takeQuad (cursor : Cursor) : Option (Float × Float × Float × Float) × Cursor :=
  match cursor.takeNumbers 4 with
  | (some [a, b, c, d], cursor) => (some (a, b, c, d), cursor)
  | (_, cursor) => (none, cursor)

/-- Takes a count: a whole number that is not negative and not above the bytes that remain. Each
thing counted takes at least one byte, so a greater count could not be met. -/
def takeCount (cursor : Cursor) : Option Nat × Cursor :=
  let (number, cursor) := cursor.takeNumber
  let count := match number.bind fun n => (Binary64.ofFloat n).toWhole? with
    | some (.ofNat n) => if n ≤ byteCount cursor.rest then some n else none
    | _ => none
  (count, cursor)

/-- The points whose coordinates follow each other. -/
def pairUp : List Float → List (Point Float)
  | x :: y :: rest => ⟨x, y⟩ :: pairUp rest
  | _ => []

/-- Takes a count and as many points. -/
def takePoints (cursor : Cursor) : Option (List (Point Float)) × Cursor :=
  match cursor.takeCount with
  | (none, cursor) => (none, cursor)
  | (some count, cursor) =>
    let (numbers, cursor) := cursor.takeNumbers (2 * count)
    (numbers.map pairUp, cursor)

/-- Takes four numbers and a string. -/
def takePlacement (cursor : Cursor) :
    Option ((Float × Float × Float × Float) × List Char) × Cursor :=
  match cursor.takeQuad with
  | (none, cursor) => (none, cursor)
  | (some quad, cursor) =>
    let (text, cursor) := cursor.takeString
    (text.map fun text => (quad, text), cursor)

/-- Takes a number and a string. -/
def takeFont (cursor : Cursor) : Option (Float × List Char) × Cursor :=
  match cursor.takeNumber with
  | (none, cursor) => (none, cursor)
  | (some size, cursor) =>
    let (family, cursor) := cursor.takeString
    (family.map fun family => (size, family), cursor)

end Cursor

namespace Instruction

/-- The operands that were taken, made into an instruction. -/
def complete {α : Type} (op : OpCode) (taken : Option α × Cursor) (make : α → Instruction) :
    Except Fault Instruction × Cursor :=
  match taken.1 with
  | some operands => (.ok (make operands), taken.2)
  | none => (.error (.missingOperand op), taken.2)

/-- Reads the operands of an operation. -/
def read (op : OpCode) (cursor : Cursor) : Except Fault Instruction × Cursor :=
  match op with
  | .ellipse filled =>
    complete op cursor.takeQuad fun (x, y, rx, ry) => ellipse filled ⟨x, y⟩ rx ry
  | .polygon filled => complete op cursor.takePoints (polygon filled)
  | .polyline => complete op cursor.takePoints polyline
  | .spline filled => complete op cursor.takePoints (spline filled)
  | .image =>
    complete op cursor.takePlacement fun ((x, y, w, h), source) =>
      image ⟨x, y⟩ w h (.ofList source)
  | .text =>
    complete op cursor.takePlacement fun ((x, y, align, width), content) =>
      text ⟨x, y⟩ align width (.ofList content)
  | .fillColor => complete op cursor.takeString fun literal => fillColor (.ofList literal)
  | .strokeColor => complete op cursor.takeString fun literal => strokeColor (.ofList literal)
  | .font => complete op cursor.takeFont fun (size, family) => font size (.ofList family)
  | .style =>
    match cursor.takeString with
    | (none, cursor) => (.error (.missingOperand op), cursor)
    | (some name, cursor) =>
      match LineStyle.ofText? name with
      | some known => (.ok (style known), cursor)
      | none => (.error (.unknownStyle (.ofList name)), cursor)

end Instruction

section Progress

/-! Reading leads onward, so it never makes the rest longer. -/

namespace Cursor

theorem onward_takeQuad (cursor : Cursor) : Onward cursor cursor.takeQuad.2 := by
  have numbers := onward_takeNumbers 4 cursor
  unfold takeQuad
  split <;> rename_i taken <;> rwa [taken] at numbers

theorem onward_takeCount (cursor : Cursor) : Onward cursor cursor.takeCount.2 :=
  onward_takeNumber cursor

theorem onward_takePoints (cursor : Cursor) : Onward cursor cursor.takePoints.2 := by
  have first := onward_takeCount cursor
  rw [takePoints]
  split
  · rename_i taken
    rwa [taken] at first
  · rename_i count left taken
    rw [taken] at first
    exact first.trans (onward_takeNumbers _ left)

theorem onward_takePlacement (cursor : Cursor) : Onward cursor cursor.takePlacement.2 := by
  have first := onward_takeQuad cursor
  rw [takePlacement]
  split
  · rename_i taken
    rwa [taken] at first
  · rename_i quad left taken
    rw [taken] at first
    exact first.trans (onward_takeString left)

theorem onward_takeFont (cursor : Cursor) : Onward cursor cursor.takeFont.2 := by
  have first := onward_takeNumber cursor
  rw [takeFont]
  split
  · rename_i taken
    rwa [taken] at first
  · rename_i size left taken
    rw [taken] at first
    exact first.trans (onward_takeString left)

end Cursor

namespace Instruction

open Cursor

/-- Whether the operands are there or not, the cursor is behind what was taken. -/
theorem snd_complete {α : Type} (op : OpCode) (taken : Option α × Cursor)
    (make : α → Instruction) : (complete op taken make).2 = taken.2 := by
  unfold complete
  split <;> rfl

/-- Reading an instruction only moves the cursor on, also when it fails. -/
theorem onward_read (op : OpCode) (cursor : Cursor) : Onward cursor (read op cursor).2 := by
  have string := onward_takeString cursor
  cases op with
  | style =>
    rw [read]
    split
    · rename_i taken
      rwa [taken] at string
    · rename_i name left taken
      rw [taken] at string
      split <;> exact string
  | _ =>
    simp only [read, snd_complete]
    first
    | exact onward_takeQuad cursor
    | exact onward_takePoints cursor
    | exact onward_takePlacement cursor
    | exact onward_takeFont cursor
    | exact string

/-- Reading an instruction leaves no more than there was. -/
theorem length_read_le (op : OpCode) (cursor : Cursor) :
    (read op cursor).2.rest.length ≤ cursor.rest.length :=
  (onward_read op cursor).suffix.length_le

end Instruction

end Progress

/-- What a script says: instructions, and the fault that ended it if there was one. -/
structure Script where
  instructions : List Instruction
  fault : Option Fault

namespace Script

def empty : Script :=
  ⟨[], none⟩

/-- A script that says nothing has neither an instruction nor a fault. -/
def isEmpty (script : Script) : Bool :=
  script.instructions.isEmpty && script.fault.isNone

/-- Reads instructions until the text ends or one cannot be read. -/
def readFrom (cursor : Cursor) : Script :=
  match _ : cursor.takeWord with
  | (none, _) => empty
  | (some word, after) =>
    match OpCode.ofWord? word with
    | none => ⟨[], some (.unknownOp (.ofList word))⟩
    | some op =>
      match _ : Instruction.read op after with
      | (.error fault, _) => ⟨[], some fault⟩
      | (.ok instruction, rest) =>
        let script := readFrom rest
        { script with instructions := instruction :: script.instructions }
termination_by cursor.rest.length
decreasing_by
  rename_i taken reading
  have shorter := Cursor.length_takeWord_lt taken
  have kept := Instruction.length_read_le op after
  rw [reading] at kept
  exact Nat.lt_of_le_of_lt kept shorter

def read (text : String) : Script :=
  readFrom (.ofText text.toList)

end Script
end XdotViewer
