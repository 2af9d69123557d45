import XdotViewer.Proofs.Script.Encoding

/-! # Reading what has been written

Each way of taking something off a script takes it off the tokens in which it is written, and what
is left begins with the blanks before the next token. So a script is read as the instructions that
have been written, to its end.
-/

namespace XdotViewer

/-- Tokens that are taken off every text that begins with them, with what follows left over. -/
def Takes {α : Type} (take : Cursor → Option α × Cursor) (tokens : List (List Char)) (a : α) :
    Prop :=
  ∀ (more : List (List Char)) (text : List Char), Spaced (tokens ++ more) text →
    ∃ after, Spaced more after ∧ take (.ofText text) = (some a, .ofText after)

/-- A token that begins with something visible stands at the front when blanks are dropped. -/
theorem Spaced.trimStart_eq {c : Char} {token text : List Char} {more : List (List Char)}
    (spaced : Spaced ((c :: token) :: more) text) (visible : isBlank c = false) :
    ∃ after, Spaced more after ∧ Apart after ∧ trimStart text = c :: token ++ after := by
  cases spaced with
  | @token gap _ after _ blank apart rest =>
    refine ⟨after, rest, apart, ?_⟩
    rw [List.append_assoc, trimStart_append_of_blank blank, List.cons_append,
      trimStart_of_head visible]

namespace IsWord

variable {word text : List Char} {more : List (List Char)}

private theorem exists_cons (isWord : IsWord word) :
    ∃ c rest, word = c :: rest ∧ isBlank c = false := by
  obtain ⟨c, rest, rfl⟩ := List.exists_cons_of_ne_nil isWord.filled
  exact ⟨c, rest, rfl, isWord.visible c List.mem_cons_self⟩

private theorem takes (isWord : IsWord word) : Takes Cursor.takeWord [word] word := by
  intro more text spaced
  obtain ⟨c, rest, rfl, visible⟩ := isWord.exists_cons
  obtain ⟨after, next, apart, front⟩ := spaced.trimStart_eq visible
  obtain ⟨noWord, whole⟩ := Cursor.takeWhile_visible_of_apart apart
  have allVisible : ∀ d ∈ c :: rest, (!isBlank d) = true := fun d member => by
    simp [isWord.visible d member]
  refine ⟨after, next, ?_⟩
  have taken : (trimStart text).takeWhile (fun d => !isBlank d) = c :: rest := by
    rw [front, List.takeWhile_append_of_pos allVisible, noWord, List.append_nil]
  have left : (trimStart text).dropWhile (fun d => !isBlank d) = after := by
    rw [front, List.dropWhile_append_of_pos allVisible, whole]
  simp only [Cursor.takeWord, Cursor.ofText, taken, left]

private theorem length_le {words : List (List Char)} (areWords : ∀ word ∈ words, IsWord word)
    (spaced : Spaced (words ++ more) text) : words.length ≤ (trimStart text).length := by
  induction words generalizing text with
  | nil => exact Nat.zero_le _
  | cons word rest ih =>
    obtain ⟨c, letters, rfl, visible⟩ := (areWords word List.mem_cons_self).exists_cons
    obtain ⟨after, next, -, front⟩ := Spaced.trimStart_eq spaced visible
    have bound := ih (fun word member => areWords word (List.mem_cons_of_mem _ member)) next
    have shorter := (trimStart_suffix after).length_le
    rw [front, List.length_append, List.length_cons, List.length_cons]
    omega

end IsWord

namespace Cursor

variable {tokens : List (List Char)}

private theorem takes_number {number : Float} {token : List Char}
    (writes : WritesNumber number token) :
    Takes takeNumber [token] number := by
  intro more text spaced
  obtain ⟨after, next, taken⟩ := writes.isWord.takes more text spaced
  exact ⟨after, next, by rw [takeNumber_of_takeWord taken, writes.reads]⟩

private theorem takes_numbers {numbers : List Float} (writes : WritesNumbers numbers tokens) :
    Takes (takeNumbers numbers.length) tokens numbers := by
  induction writes with
  | nil => exact fun more text spaced => ⟨text, spaced, rfl⟩
  | cons first _ ih =>
    intro more text spaced
    obtain ⟨middle, next, number⟩ := takes_number first _ text spaced
    obtain ⟨after, last, numbers⟩ := ih more middle next
    refine ⟨after, last, ?_⟩
    simp only [List.length_cons, takeNumbers, number, numbers, Option.map_some]

private theorem takes_quad {a b c d : Float} (writes : WritesNumbers [a, b, c, d] tokens) :
    Takes takeQuad tokens (a, b, c, d) := by
  intro more text spaced
  obtain ⟨after, next, numbers⟩ := takes_numbers writes more text spaced
  have four : (ofText text).takeNumbers 4 = (some [a, b, c, d], .ofText after) := numbers
  exact ⟨after, next, by rw [takeQuad, four]⟩

/-- The string may hold blanks and whatever looks like a token: its bytes are counted. -/
theorem takes_string {text : String} (writes : WritesString text tokens) :
    Takes takeString tokens text.toList := by
  cases writes with
  | announced isWord size =>
    intro more whole spaced
    obtain ⟨middle, next, announced⟩ := isWord.takes _ whole spaced
    obtain ⟨after, last, -, marked⟩ := Spaced.trimStart_eq next (by decide)
    have rest : (ofText middle).rest = '-' :: (text.toList ++ after) := marked
    have bytes := splitBytes_byteCount text.toList after
    rw [utf8ByteSize_eq_byteCount] at size
    exact ⟨after, last, by simp only [takeString, announced, size, rest, bytes]⟩

/-- A count of points is met, since each of them takes more than a byte. -/
theorem takes_points {points : List (Point Float)} (writes : WritesPoints points tokens) :
    Takes takePoints tokens points := by
  cases writes with
  | @counted count coords isWord counts writes =>
    intro more text spaced
    obtain ⟨middle, next, taken⟩ := isWord.takes _ text spaced
    obtain ⟨after, last, numbers⟩ := takes_numbers writes more middle next
    rw [length_coordinates] at numbers
    have long : coords.length = 2 * points.length := by
      rw [← writes.length_eq, length_coordinates]
    have bound : points.length ≤ byteCount (ofText middle).rest := by
      have chars := IsWord.length_le (isWord_of_writesNumbers writes) next
      have bytes := length_le_byteCount (trimStart middle)
      simp only [ofText]
      omega
    obtain ⟨number, reads, whole⟩ := count?_eq_some.mp counts
    have counted : (ofText text).takeCount = (some points.length, .ofText middle) :=
      takeCount_eq_some.mpr
        ⟨number, reads ▸ takeNumber_of_takeWord taken, whole, bound⟩
    exact ⟨after, last, by
      simp only [takePoints, counted, numbers, Option.map_some, pairUp_coordinates]⟩

private theorem takes_placement {a b c d : Float} {numbers string : List (List Char)}
    {content : String}
    (writes : WritesNumbers [a, b, c, d] numbers) (writesString : WritesString content string) :
    Takes takePlacement (numbers ++ string) ((a, b, c, d), content.toList) := by
  intro more text spaced
  rw [List.append_assoc] at spaced
  obtain ⟨middle, next, quad⟩ := takes_quad writes _ text spaced
  obtain ⟨after, last, string⟩ := takes_string writesString more middle next
  exact ⟨after, last, by simp only [takePlacement, quad, string, Option.map_some]⟩

private theorem takes_font {size : Float} {number : List Char} {string : List (List Char)}
    {family : String} (writes : WritesNumber size number)
    (writesString : WritesString family string) :
    Takes takeFont (number :: string) (size, family.toList) := by
  intro more text spaced
  obtain ⟨middle, next, number⟩ := takes_number writes _ text spaced
  obtain ⟨after, last, string⟩ := takes_string writesString more middle next
  exact ⟨after, last, by simp only [takeFont, number, string, Option.map_some]⟩

end Cursor

namespace Instruction

/-- Operands that make an instruction, off every text that begins with them. -/
def ReadOff (op : OpCode) (operands : List (List Char)) (instruction : Instruction) : Prop :=
  ∀ (more : List (List Char)) (text : List Char), Spaced (operands ++ more) text →
    ∃ after, Spaced more after ∧ read op (.ofText text) = (.ok instruction, .ofText after)

private theorem readOff_of_takes {α : Type} {take : Cursor → Option α × Cursor}
    {operands : List (List Char)} {a : α} {instruction : Instruction} {op : OpCode}
    {make : α → Instruction} (reads : ∀ cursor, read op cursor = complete op (take cursor) make)
    (takes : Takes take operands a) (made : make a = instruction) :
    ReadOff op operands instruction := by
  intro more text spaced
  obtain ⟨after, next, taken⟩ := takes more text spaced
  refine ⟨after, next, ?_⟩
  rw [reads]
  exact complete_eq_ok.mpr ⟨a, taken, made.symm⟩

/-- An instruction is read off the tokens behind the letter of its operation. -/
theorem Writes.exists_readOff {instruction : Instruction} {tokens : List (List Char)}
    (writes : instruction.Writes tokens) :
    ∃ op operands, tokens = [op.letter] :: operands ∧ ReadOff op operands instruction := by
  cases writes with
  | @ellipse filled _ _ _ _ numbers =>
    refine ⟨.ellipse filled, _, ?_,
      readOff_of_takes (fun _ => rfl) (Cursor.takes_quad numbers) rfl⟩
    cases filled <;> rfl
  | @polygon filled _ _ points =>
    refine ⟨.polygon filled, _, ?_,
      readOff_of_takes (fun _ => rfl) (Cursor.takes_points points) rfl⟩
    cases filled <;> rfl
  | polyline points =>
    exact ⟨.polyline, _, rfl, readOff_of_takes (fun _ => rfl) (Cursor.takes_points points) rfl⟩
  | @spline filled _ _ points =>
    refine ⟨.spline filled, _, ?_,
      readOff_of_takes (fun _ => rfl) (Cursor.takes_points points) rfl⟩
    cases filled <;> rfl
  | image numbers string =>
    exact ⟨.image, _, rfl, readOff_of_takes (fun _ => rfl)
      (Cursor.takes_placement numbers string)
      (congrArg (Instruction.image _ _ _) String.ofList_toList)⟩
  | text numbers string =>
    exact ⟨.text, _, rfl, readOff_of_takes (fun _ => rfl)
      (Cursor.takes_placement numbers string)
      (congrArg (Instruction.text _ _ _) String.ofList_toList)⟩
  | fillColor string =>
    exact ⟨.fillColor, _, rfl, readOff_of_takes (fun _ => rfl) (Cursor.takes_string string)
      (congrArg Instruction.fillColor String.ofList_toList)⟩
  | strokeColor string =>
    exact ⟨.strokeColor, _, rfl, readOff_of_takes (fun _ => rfl) (Cursor.takes_string string)
      (congrArg Instruction.strokeColor String.ofList_toList)⟩
  | font number string =>
    exact ⟨.font, _, rfl, readOff_of_takes (fun _ => rfl) (Cursor.takes_font number string)
      (congrArg (Instruction.font _) String.ofList_toList)⟩
  | style names string =>
    refine ⟨.style, _, rfl, fun more text spaced => ?_⟩
    obtain ⟨after, next, taken⟩ := Cursor.takes_string string more text spaced
    refine ⟨after, next, ?_⟩
    simp only [Instruction.read, taken, LineStyle.names_iff.mp names]

end Instruction

section Scripts

variable {instructions : List Instruction} {text : List Char}

/-- What has been written is read, and nothing but blanks is left. -/
theorem Encodes.reads (encodes : Encodes instructions text) :
    Reads (.ofText text) instructions (.ofText []) := by
  obtain ⟨parts, writes, spaced⟩ := encodes
  induction writes generalizing text with
  | nil =>
    cases spaced with
    | ended blank =>
      have nothing : trimStart text = [] := trimStart_eq_nil_iff.mpr blank
      rw [Cursor.ofText, nothing]
      exact .nil _
  | cons first _ ih =>
    obtain ⟨op, operands, rfl, readOff⟩ := first.exists_readOff
    obtain ⟨middle, next, taken⟩ := (isWord_letter op).takes _ text spaced
    obtain ⟨after, last, read⟩ := readOff _ middle next
    exact .cons taken (OpCode.ofWord?_letter op) read (ih last)

/-- What has been written is read, with nothing missing and nothing added. -/
theorem Encodes.readFrom (encodes : Encodes instructions text) :
    Script.readFrom (.ofText text) = ⟨instructions, none⟩ := by
  have ended : Script.readFrom (.ofText []) = .empty := readFrom_of_end rfl
  rw [readFrom_of_reads encodes.reads, ended]
  exact congrArg (Script.mk · none) (List.append_nil instructions)

end Scripts

end XdotViewer
