import Mathlib.Data.List.Forall2
import XdotViewer.Proofs.Script.Faults

/-! # Writing scripts

A script is written as tokens with blanks between them. Most tokens are words. A string takes two
of them: the number of its bytes, and a minus sign with the string behind it, whatever characters
that has. There are many ways to write the same instructions, since a number may be written in any
way that it can be read from.
-/

namespace XdotViewer

/-- Tokens with blanks between them, and maybe before and behind them. -/
inductive Spaced : List (List Char) → List Char → Prop
  | ended {gap : List Char} : (∀ c ∈ gap, isBlank c = true) → Spaced [] gap
  | token {gap token after : List Char} {more : List (List Char)} :
    (∀ c ∈ gap, isBlank c = true) → Apart after → Spaced more after →
      Spaced (token :: more) (gap ++ token ++ after)

/-- A token without blanks. -/
structure IsWord (token : List Char) : Prop where
  filled : token ≠ []
  visible : ∀ c ∈ token, isBlank c = false

private theorem isWord_iff {token : List Char} :
    IsWord token ↔ token ≠ [] ∧ (token.all fun c => !isBlank c) = true := by
  simp only [List.all_eq_true, Bool.not_eq_true']
  exact ⟨fun word => ⟨word.filled, word.visible⟩, fun ⟨filled, visible⟩ => ⟨filled, visible⟩⟩

instance (token : List Char) : Decidable (IsWord token) :=
  decidable_of_iff _ isWord_iff.symm

/-- A word that stands for a finite number. -/
structure WritesNumber (number : Float) (token : List Char) : Prop where
  isWord : IsWord token
  reads : finite? token = some number

abbrev WritesNumbers : List Float → List (List Char) → Prop :=
  List.Forall₂ WritesNumber

/-- The coordinates of points, one after the other. -/
def coordinates (points : List (Point Float)) : List Float :=
  points.flatMap fun p => [p.x, p.y]

/-- Points are written as their number and their coordinates. -/
inductive WritesPoints (points : List (Point Float)) : List (List Char) → Prop
  | counted {count : List Char} {tokens : List (List Char)} : IsWord count →
    count? count = some points.length → WritesNumbers (coordinates points) tokens →
      WritesPoints points (count :: tokens)

/-- A string is written as the number of its bytes and, behind a minus sign, its characters. -/
inductive WritesString (text : String) : List (List Char) → Prop
  | announced {size : List Char} : IsWord size → readWord? size = some text.utf8ByteSize →
    WritesString text [size, '-' :: text.toList]

/-- The names of line styles. That of a width holds a number, which may have blanks around it. -/
inductive LineStyle.Names : LineStyle → List Char → Prop
  | solid : Names .plain "solid".toList
  | filled : Names .plain "filled".toList
  | dashed : Names .dashed "dashed".toList
  | dotted : Names .dotted "dotted".toList
  | bold : Names (.width boldWidth) "bold".toList
  | width {operand : List Char} {width : Float} : '\n' ∉ operand →
    readFloat? (trim operand) = some width →
      Names (.width width) ("setlinewidth(".toList ++ operand ++ [')'])

/-- An instruction is written as the letter of its operation and the operands. Filled shapes have
capitals, filled splines the small letter. -/
inductive Instruction.Writes : Instruction → List (List Char) → Prop
  | ellipse {filled : Bool} {center : Point Float} {rx ry : Float} {tokens : List (List Char)} :
    WritesNumbers [center.x, center.y, rx, ry] tokens →
      Writes (.ellipse filled center rx ry) ([if filled then 'E' else 'e'] :: tokens)
  | polygon {filled : Bool} {points : List (Point Float)} {tokens : List (List Char)} :
    WritesPoints points tokens →
      Writes (.polygon filled points) ([if filled then 'P' else 'p'] :: tokens)
  | polyline {points : List (Point Float)} {tokens : List (List Char)} :
    WritesPoints points tokens → Writes (.polyline points) (['L'] :: tokens)
  | spline {filled : Bool} {points : List (Point Float)} {tokens : List (List Char)} :
    WritesPoints points tokens →
      Writes (.spline filled points) ([if filled then 'b' else 'B'] :: tokens)
  | image {corner : Point Float} {width height : Float} {source : String}
      {numbers string : List (List Char)} :
    WritesNumbers [corner.x, corner.y, width, height] numbers → WritesString source string →
      Writes (.image corner width height source) (['I'] :: (numbers ++ string))
  | text {anchor : Point Float} {align width : Float} {content : String}
      {numbers string : List (List Char)} :
    WritesNumbers [anchor.x, anchor.y, align, width] numbers → WritesString content string →
      Writes (.text anchor align width content) (['T'] :: (numbers ++ string))
  | fillColor {literal : String} {string : List (List Char)} : WritesString literal string →
      Writes (.fillColor literal) (['C'] :: string)
  | strokeColor {literal : String} {string : List (List Char)} : WritesString literal string →
      Writes (.strokeColor literal) (['c'] :: string)
  | font {size : Float} {family : String} {number : List Char} {string : List (List Char)} :
    WritesNumber size number → WritesString family string →
      Writes (.font size family) (['F'] :: number :: string)
  | style {style : LineStyle} {name : String} {string : List (List Char)} :
    style.Names name.toList → WritesString name string →
      Writes (.style style) (['S'] :: string)

/-- A text in which instructions are written. -/
def Encodes (instructions : List Instruction) (text : List Char) : Prop :=
  ∃ parts : List (List (List Char)), List.Forall₂ Instruction.Writes instructions parts ∧
    Spaced parts.flatten text

/-- One space in front of each token will do. -/
theorem spaced_flatMap (tokens : List (List Char)) :
    Spaced tokens (tokens.flatMap fun token => [' '] ++ token) := by
  induction tokens with
  | nil => exact .ended nofun
  | cons token rest ih =>
    have apart : Apart (rest.flatMap fun token => [' '] ++ token) := by
      cases rest with
      | nil => nofun
      | cons => exact fun c head => Option.some.inj head ▸ by decide
    exact .token (List.forall_mem_singleton.mpr (by decide)) apart ih

/-- The letter of an op-code is a word. -/
theorem isWord_letter (op : OpCode) : IsWord [op.letter] := by
  refine ⟨List.cons_ne_nil _ _, fun c member => ?_⟩
  cases List.mem_singleton.mp member
  cases op <;> first | decide | (rename_i filled; cases filled <;> decide)

/-- Numbers are written as words. -/
theorem isWord_of_writesNumbers {numbers : List Float} {tokens : List (List Char)}
    (writes : WritesNumbers numbers tokens) : ∀ token ∈ tokens, IsWord token := by
  induction writes with
  | nil => nofun
  | cons first _ ih => exact List.forall_mem_cons.mpr ⟨first.isWord, ih⟩

theorem count?_eq_some {word : List Char} {count : Nat} : count? word = some count ↔
    ∃ number, finite? word = some number ∧
      (Binary64.ofFloat number).toWhole? = some (.ofNat count) := by
  rw [← Option.bind_eq_some_iff, count?]
  split
  · rename_i whole
    rw [whole, Option.some.injEq, Option.some.injEq, Int.ofNat.injEq]
  · rename_i other
    exact iff_of_false (Option.some_ne_none count ∘ Eq.symm) (other count)

/-- Coordinates that are paired up give the points back. -/
theorem pairUp_coordinates (points : List (Point Float)) :
    Cursor.pairUp (coordinates points) = points := by
  induction points with
  | nil => rfl
  | cons p rest ih => exact congrArg (p :: ·) ih

theorem length_coordinates (points : List (Point Float)) :
    (coordinates points).length = 2 * points.length := by
  induction points with
  | nil => rfl
  | cons p rest ih =>
    rw [coordinates, List.flatMap_cons, List.length_append, ← coordinates, ih, List.length_cons]
    simp only [List.length_cons, List.length_nil]
    omega

section Bytes

private theorem size_utf8Encode (text : List Char) :
    text.utf8Encode.size = Cursor.byteCount text := by
  induction text with
  | nil => rfl
  | cons c rest ih =>
    rw [List.utf8Encode_cons, ByteArray.size_append, ih, List.utf8Encode_singleton,
      List.size_toByteArray, String.length_utf8EncodeChar, Cursor.byteCount]

/-- Bytes are counted as UTF-8 has them. -/
theorem utf8ByteSize_eq_byteCount (text : String) :
    text.utf8ByteSize = Cursor.byteCount text.toList := by
  rw [← size_utf8Encode, ← String.toByteArray_ofList, String.ofList_toList]
  rfl

/-- Every character has a byte at least. -/
theorem length_le_byteCount (text : List Char) : text.length ≤ Cursor.byteCount text := by
  induction text with
  | nil => exact Nat.le_refl 0
  | cons c rest ih =>
    have one : 1 ≤ c.utf8Size := c.utf8Size_pos
    simp only [List.length_cons, Cursor.byteCount]
    omega

/-- The bytes of a text are those of its front part and what follows it. -/
theorem splitBytes_byteCount (text after : List Char) :
    Cursor.splitBytes (text ++ after) (Cursor.byteCount text) = some (text, after) := by
  induction text with
  | nil => exact Cursor.splitBytes.eq_1 after
  | cons c rest ih =>
    obtain ⟨more, size⟩ := Nat.exists_eq_succ_of_ne_zero (Nat.ne_of_gt c.utf8Size_pos)
    have count : Cursor.byteCount (c :: rest) = more + Cursor.byteCount rest + 1 := by
      rw [Cursor.byteCount, size]
      omega
    have left : more + Cursor.byteCount rest + 1 - c.utf8Size = Cursor.byteCount rest := by
      omega
    rw [count, List.cons_append, Cursor.splitBytes, left, ih]
    rfl

end Bytes

namespace LineStyle

variable {style : LineStyle} {name operand : List Char}

private theorem widthText?_eq_some : widthText? name = some operand ↔
    name = "setlinewidth(".toList ++ operand ++ [')'] ∧ '\n' ∉ operand := by
  constructor
  · intro found
    unfold widthText? at found
    split at found
    · rename_i opens
      obtain ⟨rest, rfl⟩ := List.isPrefixOf_iff_prefix.mp opens
      simp only [List.drop_left] at found
      split at found
      · rename_i closed
        obtain ⟨front, rfl⟩ := List.getLast?_eq_some_iff.mp closed.1
        rw [List.dropLast_concat] at found
        cases found
        exact ⟨(List.append_assoc _ _ _).symm, fun line => closed.2 (List.mem_append_left _ line)⟩
      · cases found
    · cases found
  · rintro ⟨rfl, oneLine⟩
    have opens : widthOpening.isPrefixOf (widthOpening ++ operand ++ [')']) = true := by
      rw [List.append_assoc, List.isPrefixOf_iff_prefix]
      exact List.prefix_append _ _
    have rest : (widthOpening ++ operand ++ [')']).drop widthOpening.length = operand ++ [')'] := by
      rw [List.append_assoc, List.drop_left]
    change widthText? (widthOpening ++ operand ++ [')']) = some operand
    rw [widthText?, if_pos opens, rest, if_pos, List.dropLast_concat]
    exact ⟨List.getLast?_concat, by simpa using oneLine⟩

private theorem Names.ofText? (names : style.Names name) : LineStyle.ofText? name = some style := by
  cases names with
  | @width operand _ oneLine reads =>
    have opens := widthText?_eq_some.mpr ⟨rfl, oneLine⟩
    -- The other names hold no width.
    have other (name : String) (none : widthText? name.toList = none) :
        String.ofList ("setlinewidth(".toList ++ operand ++ [')']) ≠ name := by
      rintro rfl
      rw [String.toList_ofList, opens] at none
      cases none
    unfold LineStyle.ofText?
    split
    · rename_i same
      exact absurd same (other "solid" (by decide))
    · rename_i same
      exact absurd same (other "filled" (by decide))
    · rename_i same
      exact absurd same (other "dashed" (by decide))
    · rename_i same
      exact absurd same (other "dotted" (by decide))
    · rename_i same
      exact absurd same (other "bold" (by decide))
    · rw [opens, Option.bind_some, reads]
      rfl
  | _ => rfl

/-- The names of styles are the texts that are read as such. -/
theorem names_iff : style.Names name ↔ ofText? name = some style := by
  refine ⟨Names.ofText?, fun read => ?_⟩
  have text (known : String) (same : String.ofList name = known) : name = known.toList := by
    rw [← same, String.toList_ofList]
  unfold ofText? at read
  split at read
  · rename_i same
    cases read
    exact text _ same ▸ .solid
  · rename_i same
    cases read
    exact text _ same ▸ .filled
  · rename_i same
    cases read
    exact text _ same ▸ .dashed
  · rename_i same
    cases read
    exact text _ same ▸ .dotted
  · rename_i same
    cases read
    exact text _ same ▸ .bold
  · obtain ⟨operand, opens, inside⟩ := Option.bind_eq_some_iff.mp read
    obtain ⟨width, number, rfl⟩ := Option.map_eq_some_iff.mp inside
    obtain ⟨rfl, oneLine⟩ := widthText?_eq_some.mp opens
    exact .width oneLine number

end LineStyle

end XdotViewer
