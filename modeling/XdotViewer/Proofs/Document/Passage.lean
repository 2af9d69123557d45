import XdotViewer.Document.Lines
import XdotViewer.Proofs.Document.Quotation

/-! # Passing over text

A logical line is cut at semicolons and braces outside of everything. A scan passes over a text
when it is cut nowhere in it: quotations and attribute lists are passed over whatever they hold. A
line that is passed over up to a cut at its end is complete, and it is the one statement on it.
-/

namespace XdotViewer

/-- The characters that end a statement when they stand outside of everything. -/
def isCut (c : Char) : Bool :=
  c == ';' || c == '{' || c == '}'

namespace Nesting

/-- A scan that is cut nowhere in a text, with the places where it starts and ends. -/
inductive Passes : Nesting → List Char → Nesting → Prop
  | nil (nesting : Nesting) : Passes nesting [] nesting
  | cons {nesting middle final : Nesting} {c : Char} {rest : List Char} {outside : Bool} :
      nesting.feed c = (middle, outside) → (outside = true → isCut c = false) →
      Passes middle rest final → Passes nesting (c :: rest) final

namespace Passes

variable {nesting middle final : Nesting}

theorem append {first second : List Char} (left : Passes nesting first middle)
    (right : Passes middle second final) : Passes nesting (first ++ second) final := by
  induction left with
  | nil => exact right
  | cons fed uncut _ ih => exact .cons fed uncut (ih right)

theorem single {c : Char} {outside : Bool} (fed : nesting.feed c = (middle, outside))
    (uncut : outside = true → isCut c = false) : Passes nesting [c] middle :=
  .cons fed uncut (.nil middle)

/-- Inside something every character is passed over. -/
theorem inside {c : Char} (fed : nesting.feed c = (middle, false)) :
    Passes nesting [c] middle :=
  single fed fun outside => absurd outside Bool.false_ne_true

/-- Characters without a meaning of their own change nothing. -/
theorem of_plain {lists : Nat} {text : List Char}
    (plain : ∀ c ∈ text, c ∉ ['"', '<', '[', ']', ';', '{', '}']) :
    Passes ⟨.plain, lists⟩ text ⟨.plain, lists⟩ := by
  induction text with
  | nil => exact .nil _
  | cons c rest ih =>
    have free := plain c (List.mem_cons_self ..)
    simp only [List.mem_cons, List.not_mem_nil, or_false, not_or] at free
    obtain ⟨quote, markup, opened, closed, semicolon, left, right⟩ := free
    have fed : feed ⟨.plain, lists⟩ c = (⟨.plain, lists⟩, lists == 0) := by
      simp [feed, quote, markup, opened, closed]
    have uncut : isCut c = false := by
      simp [isCut, semicolon, left, right]
    exact .cons fed (fun _ => uncut) (ih fun d member => plain d (by simp [member]))

private theorem escaped_pair {lists : Nat} (c : Char) :
    Passes ⟨.quoted false, lists⟩ ['\\', c] ⟨.quoted false, lists⟩ := by
  have slash : feed ⟨.quoted false, lists⟩ '\\' = (⟨.quoted true, lists⟩, false) := rfl
  have taken : feed ⟨.quoted true, lists⟩ c = (⟨.quoted false, lists⟩, false) := rfl
  exact (inside slash).append (inside taken)

/-- Inside quotes nothing cuts, and a backslash takes the next character with it. -/
theorem of_protect {lists : Nat} {text : List Char} (paired : Ident.Paired text) :
    Passes ⟨.quoted false, lists⟩ (text.flatMap Ident.protect) ⟨.quoted false, lists⟩ := by
  induction paired with
  | nil => exact .nil _
  | @char c rest plain _ _ ih =>
    by_cases quote : c = '"'
    · subst quote
      exact (escaped_pair '"').append ih
    · rw [List.flatMap_cons, Ident.protect, if_neg quote]
      have fed : feed ⟨.quoted false, lists⟩ c = (⟨.quoted false, lists⟩, false) := by
        simp [feed, plain, quote]
      exact (inside fed).append ih
  | @pair c rest free _ _ ih =>
    have slash : Ident.protect '\\' = ['\\'] := rfl
    rw [List.flatMap_cons, List.flatMap_cons, slash, Ident.protect, if_neg free]
    exact (escaped_pair c).append ih

/-- A quotation is passed as a whole. -/
theorem of_quotation {lists : Nat} {text : List Char} (paired : Ident.Paired text) :
    Passes ⟨.plain, lists⟩ (Ident.quotation text) ⟨.plain, lists⟩ := by
  have opened : Passes ⟨.plain, lists⟩ ['"'] ⟨.quoted false, lists⟩ := inside rfl
  have closed : Passes ⟨.quoted false, lists⟩ ['"'] ⟨.plain, lists⟩ := inside rfl
  exact (opened.append (of_protect paired)).append closed

/-- An attribute list is passed over when what it holds is. -/
theorem of_list {lists : Nat} {text : List Char}
    (inner : Passes ⟨.plain, lists + 1⟩ text ⟨.plain, lists + 1⟩) :
    Passes ⟨.plain, lists⟩ ('[' :: text ++ [']']) ⟨.plain, lists⟩ := by
  have opened : Passes ⟨.plain, lists⟩ ['['] ⟨.plain, lists + 1⟩ := inside rfl
  have closed : Passes ⟨.plain, lists + 1⟩ [']'] ⟨.plain, lists⟩ := inside rfl
  exact (opened.append inner).append closed

end Passes
end Nesting

section Cutting

variable {nesting after : Nesting} {text : List Char}

/-- What is passed without a cut is kept for the statement that it belongs to. -/
theorem cutStatements_of_passes (passes : nesting.Passes text after)
    (reversed rest : List Char) :
    cutStatements nesting reversed (text ++ rest) =
      cutStatements after (text.reverse ++ reversed) rest := by
  induction passes generalizing reversed with
  | nil => rfl
  | @cons nesting middle final c tail outside fed uncut _ ih =>
    have kept : ∀ d, isCut d = true → (outside && c == d) = false := by
      intro d cut
      cases outside with
      | false => rfl
      | true =>
        rw [Bool.true_and, beq_eq_false_iff_ne]
        rintro rfl
        simp [uncut rfl] at cut
    simp only [List.cons_append, cutStatements, fed, kept '{' rfl, kept '}' rfl, kept ';' rfl,
      Bool.false_eq_true, if_false, ih, List.reverse_cons, List.append_assoc, List.nil_append]

/-- Whether a line is complete hangs on its last character alone, if that is no blank. -/
theorem endsStatement_of_passes (passes : nesting.Passes text after) {c : Char}
    (visible : isBlank c = false) (done : Bool) :
    endsStatement nesting done (text ++ [c]) = ((after.feed c).2 && isCut c) := by
  induction passes generalizing done with
  | nil => simp [endsStatement, visible, isCut]
  | cons fed _ _ ih => simp only [List.cons_append, endsStatement, fed, ih]

theorem isBlank_of_isCut {c : Char} (cut : isCut c = true) : isBlank c = false := by
  simp only [isCut, Bool.or_eq_true, beq_iff_eq] at cut
  rcases cut with (rfl | rfl) | rfl <;> decide

theorem feed_start_of_isCut {c : Char} (cut : isCut c = true) :
    Nesting.start.feed c = (.start, true) := by
  simp only [isCut, Bool.or_eq_true, beq_iff_eq] at cut
  rcases cut with (rfl | rfl) | rfl <;> rfl

/-- A line is complete if its last character ends a statement. -/
theorem isComplete_of_passes (passes : Nesting.start.Passes text .start) {c : Char}
    (cut : isCut c = true) : isComplete (text ++ [c]) = true := by
  rw [isComplete, endsStatement_of_passes passes (isBlank_of_isCut cut),
    feed_start_of_isCut cut, cut, Bool.and_self]

/-- A text that neither begins nor ends with a blank. -/
def Trimmed (text : List Char) : Prop :=
  (∃ c rest, text = c :: rest ∧ isBlank c = false) ∧
    ∃ front c, text = front ++ [c] ∧ isBlank c = false

theorem trim_of_trimmed (trimmed : Trimmed text) : trim text = text := by
  obtain ⟨⟨c, rest, start, first⟩, front, d, final, last⟩ := trimmed
  have kept : trimStart text = text := by rw [start, trimStart_of_head first]
  rw [trim, kept, trimEnd, final, List.reverse_append, List.reverse_singleton,
    List.singleton_append, List.dropWhile_cons_of_neg (by simp [last]), List.reverse_cons,
    List.reverse_reverse]

/-- A text without blanks at its ends is a statement as it is. -/
theorem settle_of_trimmed (trimmed : Trimmed text) : settle text.reverse = [text] := by
  have whole := trim_of_trimmed trimmed
  obtain ⟨⟨c, rest, rfl, _⟩, _⟩ := trimmed
  simp only [settle, List.reverse_reverse, whole]

theorem settle_nil : settle [] = [] := rfl

/-- A statement with a semicolon behind it. -/
theorem splitStatements_ended (passes : Nesting.start.Passes text .start)
    (trimmed : Trimmed text) : splitStatements (text ++ [';']) = [text] := by
  rw [splitStatements, cutStatements_of_passes passes, List.append_nil]
  simp [cutStatements, feed_start_of_isCut, isCut, settle_of_trimmed trimmed, settle_nil]

/-- A statement that opens a block keeps its brace. -/
theorem splitStatements_opening (passes : Nesting.start.Passes text .start)
    (trimmed : Trimmed (text ++ ['{'])) :
    splitStatements (text ++ ['{']) = [text ++ ['{']] := by
  have settled := settle_of_trimmed trimmed
  rw [List.reverse_append, List.reverse_singleton, List.singleton_append] at settled
  rw [splitStatements, cutStatements_of_passes passes, List.append_nil]
  simp [cutStatements, feed_start_of_isCut, isCut, settled, settle_nil]

/-- A closing brace is a statement of its own. -/
theorem splitStatements_closing : splitStatements ['}'] = [['}']] := by decide

end Cutting

section Lines

/-- A line that is one logical line wherever it stands. -/
structure Whole (line : List Char) : Prop where
  single : '\n' ∉ line
  complete : isComplete line = true
  starts : ∃ c rest, line = c :: rest ∧ isBlank c = false ∧ c ≠ '#'
  ends : ∃ front c, line = front ++ [c] ∧ isBlank c = false

/-- Lines one under the other, each with a line break. -/
def unlines (lines : List (List Char)) : List Char :=
  lines.flatMap fun line => line ++ ['\n']

/-- A separator ends one field and begins another. -/
theorem fields_append (separator : Char) (front back : List Char) :
    fields separator (front ++ separator :: back) =
      fields separator front ++ fields separator back := by
  induction front with
  | nil => simp [fields]
  | cons c rest ih =>
    obtain ⟨first, more, parts⟩ := List.exists_cons_of_ne_nil (fields_ne_nil separator rest)
    by_cases same : c = separator <;> simp [fields, same, ih, parts]

private theorem fields_append_separator {separator : Char} {part : List Char}
    (absent : separator ∉ part)
    (rest : List Char) :
    fields separator (part ++ separator :: rest) = part :: fields separator rest := by
  rw [fields_append, fields_of_not_mem absent, List.singleton_append]

private theorem fields_unlines {lines : List (List Char)} (single : ∀ line ∈ lines, '\n' ∉ line) :
    fields '\n' (unlines lines) = lines ++ [[]] := by
  induction lines with
  | nil => rfl
  | cons line rest ih =>
    have others := ih fun other member => single other (List.mem_cons_of_mem _ member)
    have shape : unlines (line :: rest) = line ++ '\n' :: unlines rest := by
      simp [unlines]
    rw [shape, fields_append_separator (single line (List.mem_cons_self ..)), others,
      List.cons_append]

private theorem dropReturn_of_ends {line front : List Char} {c : Char} (ends : line = front ++ [c])
    (visible : isBlank c = false) : dropReturn line = line := by
  have other : c ≠ '\r' := by
    rintro rfl
    revert visible
    decide
  simp [dropReturn, ends, other]

private theorem physicalLines_unlines {lines : List (List Char)}
    (whole : ∀ line ∈ lines, Whole line) :
    physicalLines (unlines lines) = lines := by
  have kept : lines.map dropReturn = lines := by
    refine (List.map_congr_left fun line member => ?_).trans (List.map_id lines)
    obtain ⟨front, c, ends, visible⟩ := (whole line member).ends
    exact dropReturn_of_ends ends visible
  simp [physicalLines, fields_unlines fun line member => (whole line member).single, kept]

private theorem joinLines_whole {lines : List (List Char)} (whole : ∀ line ∈ lines, Whole line) :
    joinLines none lines = lines := by
  induction lines with
  | nil => rfl
  | cons line rest ih =>
    have others := ih fun other member => whole other (List.mem_cons_of_mem _ member)
    obtain ⟨_, complete, ⟨c, tail, rfl, visible, comment⟩, _⟩ := whole line (List.mem_cons_self ..)
    simp [joinLines, trimStart_of_head visible, isSkipped, comment, complete, others]

/-- Whole lines are the logical lines of their text. -/
theorem logicalLines_unlines {lines : List (List Char)} (whole : ∀ line ∈ lines, Whole line) :
    logicalLines (unlines lines) = lines := by
  rw [logicalLines, physicalLines_unlines whole, joinLines_whole whole]

end Lines
end XdotViewer
