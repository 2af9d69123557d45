import XdotViewer.Proofs.Document.Splitting

/-! # Joining physical lines

Where a document is broken into lines does not change its statements. A line that ends a statement
leaves the scan as it was at the start, so what follows it is joined and split as if it stood by
itself: on a line of its own, or on the same line.
-/

namespace XdotViewer

section Completeness

variable {nesting : Nesting} {line front back blanks : List Char} {c : Char}

private theorem endsStatement_append_blank (done : Bool) (blank : ∀ c ∈ blanks, isBlank c = true) :
    endsStatement nesting done (line ++ blanks) = endsStatement nesting done line := by
  induction line generalizing nesting done with
  | nil =>
    induction blanks generalizing nesting with
    | nil => rfl
    | cons c rest ih =>
      obtain ⟨first, others⟩ := List.forall_mem_cons.mp blank
      simpa only [List.nil_append, endsStatement, first, if_true] using ih others
  | cons c rest ih => simp only [List.cons_append, endsStatement, ih]

private theorem endsStatement_concat (done : Bool) (visible : isBlank c = false) :
    endsStatement nesting done (line ++ [c]) = (((nesting.after line).feed c).2 && isCut c) := by
  induction line generalizing nesting done with
  | nil => simp [endsStatement, visible, isCut, Nesting.after]
  | cons d rest ih =>
    simp only [List.cons_append, endsStatement, ih, Nesting.after, List.foldl_cons]

/-- Whether a line is complete hangs on its last visible character alone. -/
theorem isComplete_eq (visible : isBlank c = false) (blank : ∀ c ∈ blanks, isBlank c = true) :
    isComplete (front ++ c :: blanks) = (((Nesting.start.after front).feed c).2 && isCut c) := by
  rw [isComplete, ← List.singleton_append, ← List.append_assoc, endsStatement_append_blank _ blank,
    endsStatement_concat _ visible]

private theorem exists_last_visible (visible : ∃ c ∈ line, isBlank c = false) :
    ∃ front c blanks, line = front ++ c :: blanks ∧ isBlank c = false ∧
      ∀ c ∈ blanks, isBlank c = true := by
  obtain ⟨margin, blanks, whole, first, last⟩ := exists_margins line
  have filled : trim line ≠ [] := by
    rintro empty
    obtain ⟨c, member, visible⟩ := visible
    rw [whole, empty, List.append_nil] at member
    have blank : isBlank c = true := (List.mem_append.mp member).elim (first c) (last c)
    exact absurd blank (by simp [visible])
  obtain ⟨-, front, c, kept, visible⟩ := trimmed_trim filled
  refine ⟨margin ++ front, c, blanks, ?_, visible, last⟩
  rw [kept] at whole
  rw [whole]
  simp

private theorem exists_visible_of_isComplete (complete : isComplete line = true) :
    ∃ c ∈ line, isBlank c = false := by
  by_contra none
  have blank : ∀ c ∈ line, isBlank c = true := by simpa using none
  have ended : endsStatement .start false ([] ++ line) = endsStatement .start false [] :=
    endsStatement_append_blank false blank
  rw [List.nil_append] at ended
  exact absurd complete (by rw [isComplete, ended]; exact Bool.false_ne_true)

/-- A complete line ends at a cut, up to blanks. -/
theorem exists_last_cut (complete : isComplete line = true) :
    ∃ front c blanks, line = front ++ c :: blanks ∧ isCut c = true ∧
      Nesting.start.after front = .start ∧ ∀ c ∈ blanks, isBlank c = true := by
  obtain ⟨front, c, blanks, rfl, visible, blank⟩ :=
    exists_last_visible (exists_visible_of_isComplete complete)
  rw [isComplete_eq visible blank, Bool.and_eq_true] at complete
  obtain ⟨outside, cut⟩ := complete
  exact ⟨front, c, blanks, rfl, cut, (Nesting.eq_start_of_outside outside).1, blank⟩

private theorem isComplete_append (closed : Nesting.start.after front = .start)
    (visible : ∃ c ∈ back, isBlank c = false) :
    isComplete (front ++ back) = isComplete back := by
  obtain ⟨init, c, blanks, rfl, visible, blank⟩ := exists_last_visible visible
  rw [← List.append_assoc, isComplete_eq visible blank, isComplete_eq visible blank,
    Nesting.after_append, closed]

end Completeness

section Ended

variable {front back blanks reversed : List Char} {nesting : Nesting}

/-- A text behind which a statement begins. -/
structure IsEnded (front : List Char) : Prop where
  closed : Nesting.start.after front = .start
  split : ∀ back, splitStatements (front ++ back) = splitStatements front ++ splitStatements back

private theorem settle_append_blank (reversed : List Char)
    (blank : ∀ c ∈ blanks, isBlank c = true) :
    settle (reversed ++ blanks) = settle reversed := by
  have dropped : trimStart (reversed ++ blanks).reverse = trimStart reversed.reverse := by
    rw [List.reverse_append, trimStart_append_of_blank]
    exact fun c member => blank c (List.mem_reverse.mp member)
  rw [settle, settle, trim, trim, dropped]

private theorem cutStatements_append_blank (text reversed : List Char)
    (blank : ∀ c ∈ blanks, isBlank c = true) :
    cutStatements nesting (reversed ++ blanks) text = cutStatements nesting reversed text := by
  induction text generalizing nesting reversed with
  | nil => exact settle_append_blank reversed blank
  | cons c rest ih =>
    have next (nesting : Nesting) : cutStatements nesting (c :: (reversed ++ blanks)) rest =
        cutStatements nesting (c :: reversed) rest := ih (c :: reversed)
    simp only [cutStatements, ← List.cons_append, settle_append_blank _ blank]
    simp only [List.cons_append, next]

private theorem splitStatements_of_blank (blank : ∀ c ∈ blanks, isBlank c = true)
    (back : List Char) :
    splitStatements (blanks ++ back) = splitStatements back := by
  induction blanks with
  | nil => rfl
  | cons c rest ih =>
    obtain ⟨first, others⟩ := List.forall_mem_cons.mp blank
    have uncut : (Nesting.start.feed c).2 = true → isCut c = false := fun _ => by
      by_contra cut
      exact absurd first (by simp [isBlank_of_isCut (by simpa using cut)])
    rw [List.cons_append, splitStatements, cutStatements_of_uncut uncut,
      Nesting.feed_start_of_isBlank first]
    exact (cutStatements_append_blank _ [] (by simp [first])).trans (ih others)

private theorem splitStatements_blank (blank : ∀ c ∈ blanks, isBlank c = true) :
    splitStatements blanks = [] := by
  have none := splitStatements_of_blank blank []
  rwa [List.append_nil] at none

private theorem isEnded_of_blank (blank : ∀ c ∈ blanks, isBlank c = true) : IsEnded blanks where
  closed := Nesting.after_start_of_blank blank
  split back := by
    rw [splitStatements_of_blank blank, splitStatements_blank blank]
    rfl

private theorem cutStatements_append_of_isCut {c : Char} (closed : nesting.after front = .start)
    (cut : isCut c = true) (rest : List Char) :
    cutStatements nesting reversed (front ++ c :: rest) =
      cutStatements nesting reversed (front ++ [c]) ++ splitStatements rest := by
  induction front generalizing nesting reversed with
  | nil =>
    obtain rfl : nesting = .start := closed
    simp only [List.nil_append, cutStatements_of_isCut cut, List.append_assoc]
    rfl
  | cons d tail ih =>
    have inner (reversed : List Char) :
        cutStatements (nesting.feed d).1 reversed (tail ++ c :: rest) =
          cutStatements (nesting.feed d).1 reversed (tail ++ [c]) ++ splitStatements rest :=
      ih closed
    simp only [List.cons_append, cutStatements, inner]
    split_ifs <;> simp

private theorem isEnded_of_isComplete {line : List Char} (complete : isComplete line = true) :
    IsEnded line := by
  obtain ⟨front, c, blanks, rfl, cut, closed, blank⟩ := exists_last_cut complete
  have ended : Nesting.start.after (front ++ [c]) = .start := by
    rw [Nesting.after_append, closed, Nesting.after, List.foldl_cons, feed_start_of_isCut cut]
    rfl
  have split (back : List Char) : splitStatements (front ++ c :: back) =
      splitStatements (front ++ [c]) ++ splitStatements back :=
    cutStatements_append_of_isCut closed cut back
  refine ⟨?_, fun back => ?_⟩
  · rw [← List.singleton_append, ← List.append_assoc, Nesting.after_append, ended]
    exact Nesting.after_start_of_blank blank
  · rw [List.append_assoc, List.cons_append, split, split blanks, (isEnded_of_blank blank).split,
      List.append_assoc]

end Ended

section Joining

variable {front back line raw : List Char} {lines : List (List Char)}

/-- The logical line that begins like this, and those after it. -/
def carryOn (line : List Char) (lines : List (List Char)) : List (List Char) :=
  if isComplete line then line :: joinLines none lines else joinLines (some line) lines

private theorem joinLines_some_cons (line raw : List Char) (lines : List (List Char)) :
    joinLines (some line) (raw :: lines) = carryOn (dropContinuation line ++ raw) lines :=
  rfl

/-- A text that is neither used up by dropping backslashes nor made of blanks. -/
def HasText (line : List Char) : Prop :=
  ∃ c ∈ line, isBlank c = false ∧ c ≠ '\\'

private theorem HasText.exists_visible (text : HasText line) : ∃ c ∈ line, isBlank c = false := by
  obtain ⟨c, member, visible, -⟩ := text
  exact ⟨c, member, visible⟩

private theorem HasText.append_left (text : HasText back) (front : List Char) :
    HasText (front ++ back) := by
  obtain ⟨c, member, kept⟩ := text
  exact ⟨c, List.mem_append_right front member, kept⟩

private theorem hasText_of_isComplete (complete : isComplete line = true) : HasText line := by
  obtain ⟨front, c, blanks, rfl, cut, -, -⟩ := exists_last_cut complete
  refine ⟨c, by simp, isBlank_of_isCut cut, ?_⟩
  rintro rfl
  cases cut

private theorem HasText.continue (text : HasText line) (raw : List Char) :
    HasText (dropContinuation line ++ raw) := by
  obtain ⟨c, member, visible, other⟩ := text
  refine ⟨c, List.mem_append_left raw ?_, visible, other⟩
  unfold dropContinuation
  split
  · rename_i last
    obtain ⟨init, rfl⟩ := List.getLast?_eq_some_iff.mp last
    simpa [other] using member
  · exact member

private theorem dropContinuation_append (filled : back ≠ []) (front : List Char) :
    dropContinuation (front ++ back) = front ++ dropContinuation back := by
  unfold dropContinuation
  rw [List.getLast?_append_of_ne_nil _ filled]
  split
  · exact List.dropLast_append_of_ne_nil filled
  · rfl

/-- What stands behind an ended text is joined with the lines below as if it stood by itself. -/
theorem flatMap_carryOn (ended : IsEnded front) (text : HasText back) (lines : List (List Char)) :
    (carryOn (front ++ back) lines).flatMap splitStatements =
      splitStatements front ++ (carryOn back lines).flatMap splitStatements := by
  induction lines generalizing back with
  | nil => simp [carryOn, joinLines, ended.split back]
  | cons raw lines ih =>
    have filled : back ≠ [] := by
      rintro rfl
      obtain ⟨c, member, -⟩ := text
      cases member
    rw [carryOn, carryOn, isComplete_append ended.closed text.exists_visible]
    split
    · rw [List.flatMap_cons, List.flatMap_cons, ended.split, List.append_assoc]
    · rw [joinLines_some_cons, joinLines_some_cons, dropContinuation_append filled,
        List.append_assoc]
      exact ih (text.continue raw)

/-- The statements on some physical lines. -/
def lineStatements (lines : List (List Char)) : List (List Char) :=
  (joinLines none lines).flatMap splitStatements

/-- The statements of a text are found line by line. -/
theorem statementTexts_eq (text : List Char) :
    statementTexts text = lineStatements (physicalLines text) :=
  rfl

/-- A comment begins with its sign, after blanks. -/
def IsComment (line : List Char) : Prop :=
  (trimStart line).head? = some '#'

instance (line : List Char) : Decidable (IsComment line) :=
  inferInstanceAs (Decidable (_ = _))

private theorem isComment_append (visible : ∃ c ∈ line, isBlank c = false) (back : List Char) :
    IsComment (line ++ back) ↔ IsComment line := by
  have filled : trimStart line ≠ [] := by
    obtain ⟨c, member, visible⟩ := visible
    intro empty
    exact absurd (trimStart_eq_nil_iff.mp empty c member) (by simp [visible])
  obtain ⟨c, rest, kept⟩ := List.exists_cons_of_ne_nil filled
  have whole : line.dropWhile isBlank = c :: rest := kept
  have longer : trimStart (line ++ back) = c :: (rest ++ back) := by
    simp [trimStart, List.dropWhile_append, whole]
  rw [IsComment, IsComment, longer, kept]
  rfl

private theorem lineStatements_of_blank (blank : ∀ c ∈ raw, isBlank c = true)
    (lines : List (List Char)) :
    lineStatements (raw :: lines) = lineStatements lines := by
  have empty : trimStart raw = [] := trimStart_eq_nil_iff.mpr blank
  simp [lineStatements, joinLines, empty, isSkipped]

private theorem lineStatements_of_hasText (text : HasText raw) (plain : ¬ IsComment raw)
    (lines : List (List Char)) :
    lineStatements (raw :: lines) = (carryOn raw lines).flatMap splitStatements := by
  have whole : raw.takeWhile isBlank ++ trimStart raw = raw := List.takeWhile_append_dropWhile
  have blank : ∀ c ∈ raw.takeWhile isBlank, isBlank c = true :=
    fun c member => List.mem_takeWhile_imp member
  have kept : HasText (trimStart raw) := by
    obtain ⟨c, member, visible, other⟩ := text
    rw [← whole] at member
    refine ⟨c, (List.mem_append.mp member).resolve_left fun early => ?_, visible, other⟩
    exact absurd (blank c early) (by simp [visible])
  have started : ¬ isSkipped (trimStart raw) = true := by
    cases shape : trimStart raw with
    | nil =>
      obtain ⟨c, member, -⟩ := kept
      rw [shape] at member
      cases member
    | cons c rest =>
      rw [IsComment, shape] at plain
      simpa [isSkipped] using plain
  have joined := flatMap_carryOn (isEnded_of_blank blank) kept lines
  rw [whole, splitStatements_blank blank] at joined
  rw [joined, lineStatements, joinLines, if_neg started]
  rfl

private theorem lineStatements_of_isComplete (complete : isComplete line = true)
    (plain : ¬ IsComment line)
    (lines : List (List Char)) :
    lineStatements (line :: lines) = splitStatements line ++ lineStatements lines := by
  rw [lineStatements_of_hasText (hasText_of_isComplete complete) plain, carryOn, if_pos complete]
  rfl

/-- A line that may stand behind a complete one as well as below it. -/
def MayFollow (line : List Char) : Prop :=
  (∀ c ∈ line, isBlank c = true) ∨ HasText line ∧ ¬ IsComment line

private theorem lineStatements_append (complete : isComplete line = true) (plain : ¬ IsComment line)
    (follows : MayFollow back) (lines : List (List Char)) :
    lineStatements ((line ++ back) :: lines) =
      splitStatements line ++ lineStatements (back :: lines) := by
  have ended := isEnded_of_isComplete complete
  have plain : ¬ IsComment (line ++ back) := by
    rwa [isComment_append (exists_visible_of_isComplete complete)]
  rcases follows with blank | ⟨text, other⟩
  · have still : isComplete (line ++ back) = true :=
      (endsStatement_append_blank false blank).trans complete
    rw [lineStatements_of_isComplete still plain, ended.split, splitStatements_blank blank,
      List.append_nil, lineStatements_of_blank blank]
  · rw [lineStatements_of_hasText (text.append_left line) plain, flatMap_carryOn ended text,
      lineStatements_of_hasText text other]

end Joining

section Breaking

variable {line text : List Char}

/-- At a break a text falls into two that are broken into lines by themselves. -/
theorem physicalLines_append (front back : List Char) :
    physicalLines (front ++ '\n' :: back) =
      (fields '\n' front).map dropReturn ++ physicalLines back := by
  have filled := fields_ne_nil '\n' back
  obtain ⟨others, last, parts⟩ := (List.eq_nil_or_concat' (fields '\n' back)).resolve_left filled
  simp [physicalLines, fields_append, parts, List.getLastD_eq_getLast?, ← List.append_assoc]

/-- A line ends at the first line break. -/
theorem physicalLines_append_break (single : '\n' ∉ line) (text : List Char) :
    physicalLines (line ++ '\n' :: text) = dropReturn line :: physicalLines text := by
  rw [physicalLines_append, fields_of_not_mem single, List.map_singleton, List.singleton_append]

private theorem physicalLines_of_single (single : '\n' ∉ line) :
    physicalLines line = if line = [] then [] else [line] := by
  simp [physicalLines, fields_of_not_mem single]

private theorem exists_dropReturn (line : List Char) :
    ∃ ending, line = dropReturn line ++ ending ∧ ∀ c ∈ ending, isBlank c = true := by
  unfold dropReturn
  split
  · rename_i last
    obtain ⟨init, rfl⟩ := List.getLast?_eq_some_iff.mp last
    exact ⟨['\r'], by simp, by simpa using (by decide : isBlank '\r' = true)⟩
  · exact ⟨[], (List.append_nil line).symm, by simp⟩

private theorem dropReturn_append {back : List Char} (filled : back ≠ []) (front : List Char) :
    dropReturn (front ++ back) = front ++ dropReturn back := by
  unfold dropReturn
  rw [List.getLast?_append_of_ne_nil _ filled]
  split
  · exact List.dropLast_append_of_ne_nil filled
  · rfl

/-- A return at the end of a complete line is no part of its statements. -/
theorem lineStatements_dropReturn (complete : isComplete line = true) (plain : ¬ IsComment line)
    (lines : List (List Char)) :
    lineStatements (dropReturn line :: lines) = splitStatements line ++ lineStatements lines := by
  obtain ⟨ending, whole, blank⟩ := exists_dropReturn line
  have still : isComplete (dropReturn line) = true := by
    rw [whole] at complete
    exact (endsStatement_append_blank false blank).symm.trans complete
  have other : ¬ IsComment (dropReturn line) := by
    rw [whole, isComment_append (exists_visible_of_isComplete still)] at plain
    exact plain
  have same : splitStatements line = splitStatements (dropReturn line) := by
    conv_lhs => rw [whole, (isEnded_of_isComplete still).split, splitStatements_blank blank]
    exact List.append_nil _
  rw [lineStatements_of_isComplete still other, same]

/-- The part of a text in front of its first line break. -/
def firstLine (text : List Char) : List Char :=
  text.takeWhile (· != '\n')

private theorem single_firstLine (text : List Char) : '\n' ∉ firstLine text := by
  intro member
  simpa using List.mem_takeWhile_imp member

private theorem firstLine_cases (text : List Char) :
    firstLine text = text ∨ ∃ rest, text = firstLine text ++ '\n' :: rest := by
  have whole : firstLine text ++ text.dropWhile (· != '\n') = text :=
    List.takeWhile_append_dropWhile
  cases rest : text.dropWhile (· != '\n') with
  | nil => exact .inl (by rwa [rest, List.append_nil] at whole)
  | cons c others =>
    have same : c = '\n' := by
      have head := List.head_dropWhile_not (p := (· != '\n')) (l := text) (by simp [rest])
      simpa [rest] using head
    exact .inr ⟨others, by rw [← same, ← rest, whole]⟩

private theorem MayFollow.dropReturn (follows : MayFollow line) : MayFollow (dropReturn line) := by
  obtain ⟨ending, whole, blank⟩ := exists_dropReturn line
  rcases follows with blanks | ⟨⟨c, member, visible, other⟩, plain⟩
  · exact .inl fun c member => blanks c (by rw [whole]; exact List.mem_append_left _ member)
  · rw [whole] at member plain
    have kept : c ∈ XdotViewer.dropReturn line := by
      refine (List.mem_append.mp member).resolve_right fun last => ?_
      exact absurd (blank c last) (by simp [visible])
    rw [isComment_append ⟨c, kept, visible⟩] at plain
    exact .inr ⟨⟨c, kept, visible, other⟩, plain⟩

private theorem lineStatements_physicalLines (single : '\n' ∉ line) :
    lineStatements (physicalLines line) = lineStatements [line] := by
  rw [physicalLines_of_single single]
  split
  · rename_i empty
    rw [empty]
    rfl
  · rfl

/-- Whether the text behind a complete line is on a line of its own or on the same line, it has
the same statements. -/
theorem statementTexts_append (single : '\n' ∉ line) (complete : isComplete line = true)
    (plain : ¬ IsComment line) (text : List Char) :
    statementTexts (line ++ '\n' :: text) = splitStatements line ++ statementTexts text ∧
      (MayFollow (firstLine text) →
        statementTexts (line ++ text) = splitStatements line ++ statementTexts text) := by
  refine ⟨?_, fun follows => ?_⟩
  · rw [statementTexts_eq, physicalLines_append_break single,
      lineStatements_dropReturn complete plain]
    rfl
  · rcases firstLine_cases text with whole | ⟨rest, whole⟩
    · have singleFirst : '\n' ∉ text := whole ▸ single_firstLine text
      rw [whole] at follows
      rw [statementTexts_eq, statementTexts_eq, lineStatements_physicalLines singleFirst,
        lineStatements_physicalLines (by simp [single, singleFirst]),
        lineStatements_append complete plain follows]
    · have singleFirst := single_firstLine text
      generalize firstLine text = first at whole follows singleFirst
      subst whole
      rw [← List.append_assoc, statementTexts_eq, statementTexts_eq,
        physicalLines_append_break (by simp [single, singleFirst]),
        physicalLines_append_break singleFirst]
      by_cases filled : first = []
      · subst filled
        rw [List.append_nil, lineStatements_dropReturn complete plain]
        rfl
      · rw [dropReturn_append filled, lineStatements_append complete plain follows.dropReturn]

/-- A complete line before a text whose list of attributes is broken over three lines. -/
theorem statementTexts_append_brokenList :
    let line := "a [label=\"x; y\"]; \x7b".toList
    let text := " b [label=<\x7d>,\\\n# no comment\ncolor=red]; \x7d".toList
    '\n' ∉ line ∧ isComplete line = true ∧ ¬ IsComment line ∧ MayFollow (firstLine text) ∧
      statementTexts (line ++ '\n' :: text) = splitStatements line ++ statementTexts text ∧
      statementTexts (line ++ text) = splitStatements line ++ statementTexts text := by
  intro line text
  have single : '\n' ∉ line := by decide
  have complete : isComplete line = true := by decide
  have plain : ¬ IsComment line := by decide
  have follows : MayFollow (firstLine text) :=
    .inr ⟨⟨'b', by decide, by decide, by decide⟩, by decide⟩
  obtain ⟨below, behind⟩ := statementTexts_append single complete plain text
  exact ⟨single, complete, plain, follows, below, behind follows⟩

end Breaking
end XdotViewer
