import XdotViewer.Script

/-! # Scripts that go on

What a cursor has taken off a text it also takes off a longer one, as long as the text goes on
after a blank: words end where they ended, and a count that could be met still can be.
-/

namespace XdotViewer

/-- A continuation that is kept apart from what stands before it. -/
def Apart (more : List Char) : Prop :=
  ∀ c ∈ more.head?, isBlank c = true

private theorem trimStart_append (text more : List Char) :
    trimStart (trimStart text ++ more) = trimStart (text ++ more) := by
  cases kept : trimStart text with
  | nil =>
    have blank : (text.dropWhile isBlank).isEmpty = true := by
      rw [List.isEmpty_iff]
      exact kept
    rw [List.nil_append, trimStart, trimStart, List.dropWhile_append, if_pos blank]
  | cons c rest =>
    have visible : ¬ (text.dropWhile isBlank).isEmpty = true := by
      rw [List.isEmpty_iff]
      exact fun none => List.cons_ne_nil c rest (kept ▸ none)
    have whole : text.dropWhile isBlank = c :: rest := kept
    rw [List.cons_append, trimStart_of_head (head_trimStart_not_blank kept), trimStart,
      List.dropWhile_append, if_neg visible, whole, List.cons_append]

namespace Cursor

variable {cursor after : Cursor} {word more : List Char}

/-- The cursor on a text that goes on. -/
def extend (cursor : Cursor) (more : List Char) : Cursor :=
  .ofText (cursor.rest ++ more)

/-- A cursor on a longer text is the extended one. -/
theorem extend_ofText (text more : List Char) :
    (ofText text).extend more = ofText (text ++ more) := by
  rw [extend, ofText, ofText, trimStart_append]
  rfl

/-- Where something visible comes next, nothing is dropped in front of it. -/
theorem rest_extend {c : Char} {rest : List Char} (next : cursor.rest = c :: rest)
    (visible : isBlank c = false) : (cursor.extend more).rest = c :: rest ++ more := by
  rw [extend, next, ofText, List.cons_append, trimStart_of_head visible]

/-- A word that is taken begins with the next character, and ends before a blank. -/
theorem takeWord_eq_some (taken : cursor.takeWord = (some word, after)) :
    word ≠ [] ∧ (cursor.rest.takeWhile fun c => !isBlank c) = word ∧
      after = ofText (cursor.rest.dropWhile fun c => !isBlank c) := by
  unfold takeWord at taken
  split at taken
  · cases taken
  · rename_i filled
    cases taken
    exact ⟨filled, rfl, rfl⟩

private theorem exists_visible_of_takeWord (taken : cursor.takeWord = (some word, after)) :
    ∃ c rest, cursor.rest = c :: rest ∧ isBlank c = false := by
  obtain ⟨filled, front, _⟩ := takeWord_eq_some taken
  cases shape : cursor.rest with
  | nil =>
    rw [shape, List.takeWhile_nil] at front
    exact absurd front.symm filled
  | cons c rest =>
    refine ⟨c, rest, rfl, ?_⟩
    rw [shape, List.takeWhile_cons] at front
    cases blank : isBlank c with
    | false => rfl
    | true =>
      rw [blank] at front
      exact absurd front.symm filled

/-- A continuation that is kept apart begins with no part of a word. -/
theorem takeWhile_visible_of_apart (apart : Apart more) :
    (more.takeWhile fun c => !isBlank c) = [] ∧ (more.dropWhile fun c => !isBlank c) = more := by
  cases more with
  | nil => exact ⟨rfl, rfl⟩
  | cons c rest =>
    have blank : isBlank c = true := apart c rfl
    simp [blank]

/-- A word ends where it did, whatever is added after a blank. -/
theorem takeWord_extend (taken : cursor.takeWord = (some word, after)) (apart : Apart more) :
    (cursor.extend more).takeWord = (some word, after.extend more) := by
  obtain ⟨filled, front, rfl⟩ := takeWord_eq_some taken
  obtain ⟨c, rest, next, visible⟩ := exists_visible_of_takeWord taken
  obtain ⟨noWord, whole⟩ := takeWhile_visible_of_apart apart
  have text : (cursor.extend more).rest = cursor.rest ++ more := by
    rw [rest_extend next visible, next]
  have taken' : ((cursor.rest ++ more).takeWhile fun c => !isBlank c) = word := by
    rw [List.takeWhile_append, noWord, List.append_nil]
    split
    · rename_i complete
      rw [← front, (List.takeWhile_prefix _).eq_of_length complete]
    · exact front
  have left : ((cursor.rest ++ more).dropWhile fun c => !isBlank c) =
      (cursor.rest.dropWhile fun c => !isBlank c) ++ more := by
    rw [List.dropWhile_append, whole]
    split
    · rename_i empty
      rw [List.isEmpty_iff.mp empty, List.nil_append]
    · rfl
  rw [extend_ofText, ← left]
  unfold takeWord
  rw [text]
  split
  · rename_i none
    exact absurd (taken'.symm.trans none) filled
  · rw [taken']

/-- The bytes of two texts add up. -/
theorem byteCount_append (front back : List Char) :
    byteCount (front ++ back) = byteCount front + byteCount back := by
  induction front with
  | nil => simp [byteCount]
  | cons c front ih =>
    simp only [List.cons_append, byteCount, ih]
    omega

/-- A longer text has no fewer bytes left after a word. -/
theorem byteCount_le_extend (taken : cursor.takeWord = (some word, after)) (more : List Char) :
    byteCount after.rest ≤ byteCount (after.extend more).rest := by
  obtain ⟨_, _, rfl⟩ := takeWord_eq_some taken
  cases next : (ofText (cursor.rest.dropWhile fun c => !isBlank c)).rest with
  | nil => exact Nat.zero_le _
  | cons c rest =>
    rw [rest_extend next (head_trimStart_not_blank next), byteCount_append]
    exact Nat.le_add_right _ _

private theorem splitBytes_extend {text front back : List Char} {count : Nat}
    (split : splitBytes text count = some (front, back)) (more : List Char) :
    splitBytes (text ++ more) count = some (front, back ++ more) := by
  fun_induction splitBytes text count generalizing front back with
  | case1 text =>
    cases split
    rw [splitBytes]
  | case2 => cases split
  | case3 c rest count ih =>
    obtain ⟨⟨tail, other⟩, inner, same⟩ := Option.map_eq_some_iff.mp split
    cases same
    rw [List.cons_append, splitBytes, ih inner, Option.map_some]

section Operands

variable (apart : Apart more)
include apart

/-- A number stays the same, whatever is added after a blank. -/
theorem takeNumber_extend {number : Float} (taken : cursor.takeNumber = (some number, after)) :
    (cursor.extend more).takeNumber = (some number, after.extend more) := by
  unfold takeNumber at taken ⊢
  rcases front : cursor.takeWord with ⟨word, left⟩
  rw [front] at taken
  cases word with
  | none => cases taken
  | some word =>
    obtain ⟨read, rfl⟩ := Prod.mk.inj taken
    rw [takeWord_extend front apart]
    exact congrArg (·, left.extend more) read

omit apart in
/-- Several numbers are the first one and the others. -/
theorem takeNumbers_succ_eq_some {count : Nat} {numbers : List Float} :
    cursor.takeNumbers (count + 1) = (some numbers, after) ↔
      ∃ number left rest, cursor.takeNumber = (some number, left) ∧
        left.takeNumbers count = (some rest, after) ∧ numbers = number :: rest := by
  constructor
  · intro taken
    rw [takeNumbers] at taken
    split at taken
    · cases taken
    · rename_i number left first
      rcases later : left.takeNumbers count with ⟨_ | rest, final⟩ <;> rw [later] at taken
      · cases taken
      · cases taken
        exact ⟨number, left, rest, first, later, rfl⟩
  · rintro ⟨number, left, rest, first, later, rfl⟩
    simp only [takeNumbers, first, later, Option.map_some]

private theorem takeNumbers_extend {count : Nat} {numbers : List Float}
    (taken : cursor.takeNumbers count = (some numbers, after)) :
    (cursor.extend more).takeNumbers count = (some numbers, after.extend more) := by
  induction count generalizing cursor numbers with
  | zero =>
    cases taken
    rfl
  | succ count ih =>
    obtain ⟨number, left, rest, first, later, rfl⟩ := takeNumbers_succ_eq_some.mp taken
    exact takeNumbers_succ_eq_some.mpr
      ⟨number, left.extend more, rest, takeNumber_extend apart first, ih later, rfl⟩

/-- Four numbers stay the same, whatever is added after a blank. -/
theorem takeQuad_extend {quad : Float × Float × Float × Float}
    (taken : cursor.takeQuad = (some quad, after)) :
    (cursor.extend more).takeQuad = (some quad, after.extend more) := by
  unfold takeQuad at taken
  split at taken
  · rename_i numbers
    cases taken
    rw [takeQuad, takeNumbers_extend apart numbers]
  · cases taken

/-- A string stays the same, whatever is added. -/
theorem takeString_extend {text : List Char} (taken : cursor.takeString = (some text, after)) :
    (cursor.extend more).takeString = (some text, after.extend more) := by
  unfold takeString at taken
  split at taken
  · cases taken
  · rename_i word left front
    split at taken
    · rename_i count payload announced next
      split at taken
      · rename_i content rest split
        cases taken
        have longer : (left.extend more).rest = '-' :: (payload ++ more) :=
          rest_extend next (by decide)
        rw [extend_ofText]
        simp only [takeString, takeWord_extend front apart, announced, longer,
          splitBytes_extend split more]
      · cases taken
    · cases taken

omit apart in
/-- A count is a whole number that is not above the bytes after it. -/
theorem takeCount_eq_some {count : Nat} : cursor.takeCount = (some count, after) ↔
    ∃ number, cursor.takeNumber = (some number, after) ∧
      (Binary64.ofFloat number).toWhole? = some (.ofNat count) ∧
      count ≤ byteCount after.rest := by
  unfold takeCount
  rcases front : cursor.takeNumber with ⟨number, left⟩
  simp only [Prod.mk.injEq]
  constructor
  · rintro ⟨found, rfl⟩
    split at found
    · rename_i whole
      obtain ⟨number, rfl, whole⟩ := Option.bind_eq_some_iff.mp whole
      split at found
      · rename_i bounded
        cases found
        exact ⟨number, ⟨rfl, rfl⟩, whole, bounded⟩
      · cases found
    · cases found
  · rintro ⟨number, ⟨rfl, rfl⟩, whole, bounded⟩
    rw [Option.bind_some, whole]
    exact ⟨if_pos bounded, rfl⟩

private theorem takeCount_extend {count : Nat} (taken : cursor.takeCount = (some count, after)) :
    (cursor.extend more).takeCount = (some count, after.extend more) := by
  obtain ⟨number, front, whole, bounded⟩ := takeCount_eq_some.mp taken
  refine takeCount_eq_some.mpr ⟨number, takeNumber_extend apart front, whole, ?_⟩
  rcases first : cursor.takeWord with ⟨word, left⟩
  cases word with
  | none => simp [takeNumber, first] at front
  | some word =>
    have same : left = after := by
      simp only [takeNumber, first, Prod.mk.injEq] at front
      exact front.2
    exact Nat.le_trans bounded (same ▸ byteCount_le_extend first more)

omit apart in
/-- Points are a count and twice as many numbers. -/
theorem takePoints_eq_some {points : List (Point Float)} :
    cursor.takePoints = (some points, after) ↔ ∃ count left numbers,
      cursor.takeCount = (some count, left) ∧
      left.takeNumbers (2 * count) = (some numbers, after) ∧ points = pairUp numbers := by
  constructor
  · intro taken
    rw [takePoints] at taken
    split at taken
    · cases taken
    · rename_i count left counted
      rcases later : left.takeNumbers (2 * count) with ⟨_ | numbers, final⟩ <;>
        rw [later] at taken
      · cases taken
      · cases taken
        exact ⟨count, left, numbers, counted, later, rfl⟩
  · rintro ⟨count, left, numbers, counted, later, rfl⟩
    simp only [takePoints, counted, later, Option.map_some]

private theorem takePoints_extend {points : List (Point Float)}
    (taken : cursor.takePoints = (some points, after)) :
    (cursor.extend more).takePoints = (some points, after.extend more) := by
  obtain ⟨count, left, numbers, counted, later, rfl⟩ := takePoints_eq_some.mp taken
  exact takePoints_eq_some.mpr ⟨count, left.extend more, numbers, takeCount_extend apart counted,
    takeNumbers_extend apart later, rfl⟩

private theorem takePlacement_extend {placed : (Float × Float × Float × Float) × List Char}
    (taken : cursor.takePlacement = (some placed, after)) :
    (cursor.extend more).takePlacement = (some placed, after.extend more) := by
  unfold takePlacement at taken
  split at taken
  · cases taken
  · rename_i quad left first
    rcases second : left.takeString with ⟨text, final⟩
    rw [second] at taken
    cases text with
    | none => cases taken
    | some text =>
      cases taken
      simp only [takePlacement, takeQuad_extend apart first, takeString_extend apart second,
        Option.map_some]

private theorem takeFont_extend {font : Float × List Char}
    (taken : cursor.takeFont = (some font, after)) :
    (cursor.extend more).takeFont = (some font, after.extend more) := by
  unfold takeFont at taken
  split at taken
  · cases taken
  · rename_i size left first
    rcases second : left.takeString with ⟨family, final⟩
    rw [second] at taken
    cases family with
    | none => cases taken
    | some family =>
      cases taken
      simp only [takeFont, takeNumber_extend apart first, takeString_extend apart second,
        Option.map_some]

end Operands

end Cursor

namespace Instruction

variable {cursor after : Cursor} {more : List Char}

/-- An instruction is complete exactly if its operands are there. -/
theorem complete_eq_ok {α : Type} {op : OpCode} {taken : Option α × Cursor}
    {make : α → Instruction} {instruction : Instruction} :
    complete op taken make = (.ok instruction, after) ↔
      ∃ operands, taken = (some operands, after) ∧ instruction = make operands := by
  obtain ⟨operands, left⟩ := taken
  cases operands with
  | none => simp [complete]
  | some operands =>
    simp only [complete, Prod.mk.injEq, Except.ok.injEq, Option.some.injEq]
    constructor
    · rintro ⟨rfl, rfl⟩
      exact ⟨operands, ⟨rfl, rfl⟩, rfl⟩
    · rintro ⟨_, ⟨rfl, rfl⟩, rfl⟩
      exact ⟨rfl, rfl⟩

/-- An instruction that is read is also read off a text that goes on. -/
theorem read_extend {op : OpCode} {instruction : Instruction} (apart : Apart more)
    (done : read op cursor = (.ok instruction, after)) :
    read op (cursor.extend more) = (.ok instruction, after.extend more) := by
  have longer {α : Type} {take : Cursor → Option α × Cursor} {make : α → Instruction}
      (kept : ∀ a, take cursor = (some a, after) →
        take (cursor.extend more) = (some a, after.extend more))
      (read : complete op (take cursor) make = (.ok instruction, after)) :
      complete op (take (cursor.extend more)) make = (.ok instruction, after.extend more) := by
    obtain ⟨operands, taken, made⟩ := complete_eq_ok.mp read
    exact complete_eq_ok.mpr ⟨operands, kept operands taken, made⟩
  cases op with
  | ellipse filled => exact longer (fun _ => Cursor.takeQuad_extend apart) done
  | polygon filled => exact longer (fun _ => Cursor.takePoints_extend apart) done
  | polyline => exact longer (fun _ => Cursor.takePoints_extend apart) done
  | spline filled => exact longer (fun _ => Cursor.takePoints_extend apart) done
  | image => exact longer (fun _ => Cursor.takePlacement_extend apart) done
  | text => exact longer (fun _ => Cursor.takePlacement_extend apart) done
  | fillColor => exact longer (fun _ => Cursor.takeString_extend apart) done
  | strokeColor => exact longer (fun _ => Cursor.takeString_extend apart) done
  | font => exact longer (fun _ => Cursor.takeFont_extend apart) done
  | style =>
    simp only [read] at done ⊢
    rcases named : cursor.takeString with ⟨name, left⟩
    rw [named] at done
    cases name with
    | none => cases done
    | some name =>
      rw [Cursor.takeString_extend apart named]
      cases known : LineStyle.ofText? name with
      | none => simp [known] at done
      | some style =>
        simp only [known, Prod.mk.injEq] at done ⊢
        exact ⟨done.1, congrArg (·.extend more) done.2⟩

end Instruction
end XdotViewer
