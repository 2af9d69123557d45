import XdotViewer.Proofs.Document.Passage

/-! # Splitting a line into statements

A line is cut only where its scan stands outside of everything, and there the scan is back where
it started. So a statement is scanned by itself as it was scanned in its line: each of its
characters stands outside of everything in the one exactly when it does in the other. Splitting
loses blanks and separating semicolons only, and splitting a statement again gives that statement.
-/

namespace XdotViewer

namespace Nesting

/-- Each character of a text, with whether it stands outside of everything. -/
def levels (nesting : Nesting) : List Char → List (Char × Bool)
  | [] => []
  | c :: rest => (c, (nesting.feed c).2) :: levels (nesting.feed c).1 rest

/-- Where a scan of a text ends. -/
def after (nesting : Nesting) (text : List Char) : Nesting :=
  text.foldl (fun nesting c => (nesting.feed c).1) nesting

variable {nesting final : Nesting} {c : Char} {text : List Char}

/-- Two texts in a row lead where the second leads from where the first has led. -/
theorem after_append (nesting : Nesting) (front back : List Char) :
    nesting.after (front ++ back) = (nesting.after front).after back :=
  List.foldl_append

private theorem levels_append (nesting : Nesting) (front back : List Char) :
    nesting.levels (front ++ back) = nesting.levels front ++ (nesting.after front).levels back := by
  induction front generalizing nesting with
  | nil => rfl
  | cons c rest ih => simp only [List.cons_append, levels, after, List.foldl_cons, ih]

/-- A character stands outside of everything only where the scan is as at its start, and it
leaves the scan there. -/
theorem eq_start_of_outside (outside : (nesting.feed c).2 = true) :
    nesting = .start ∧ (nesting.feed c).1 = .start := by
  obtain ⟨enclosure, lists⟩ := nesting
  unfold feed at outside ⊢
  split at outside <;> simp_all [start]
  split_ifs at outside ⊢
  simp_all

/-- A blank outside of everything stays outside. -/
theorem feed_start_of_isBlank (blank : isBlank c = true) : start.feed c = (.start, true) := by
  have other (d : Char) (visible : isBlank d = false) : c ≠ d := by
    rintro rfl
    exact absurd blank (by simp [visible])
  have quote := other '"' (by decide)
  have markup := other '<' (by decide)
  have opened := other '[' (by decide)
  have closed := other ']' (by decide)
  simp [feed, start, quote, markup, opened, closed]

private theorem Passes.after_eq (passes : Passes nesting text final) :
    nesting.after text = final := by
  induction passes with
  | nil => rfl
  | cons fed _ _ ih => simpa only [after, List.foldl_cons, fed] using ih

/-- In a text that is passed over nothing that stands outside of everything cuts. -/
theorem Passes.isCut_of_mem_levels (passes : Passes nesting text final)
    (member : (c, true) ∈ nesting.levels text) : isCut c = false := by
  induction passes with
  | nil => cases member
  | cons fed uncut _ ih =>
    rw [levels, fed] at member
    rcases List.mem_cons.mp member with same | later
    · cases same
      exact uncut rfl
    · exact ih later

private theorem Passes.of_append {front back : List Char}
    (passes : Passes nesting (front ++ back) final) :
    Passes nesting front (nesting.after front) ∧ Passes (nesting.after front) back final := by
  induction front generalizing nesting with
  | nil => exact ⟨.nil _, passes⟩
  | cons c rest ih =>
    cases passes with
    | cons fed uncut passes =>
      have inner := ih passes
      simp only [after, List.foldl_cons, fed] at inner ⊢
      exact ⟨.cons fed uncut inner.1, inner.2⟩

/-- Blanks outside of everything stay outside. -/
theorem after_start_of_blank {blanks : List Char} (blank : ∀ c ∈ blanks, isBlank c = true) :
    start.after blanks = start := by
  induction blanks with
  | nil => rfl
  | cons c rest ih =>
    obtain ⟨first, others⟩ := List.forall_mem_cons.mp blank
    simpa only [after, List.foldl_cons, feed_start_of_isBlank first] using ih others

end Nesting

section Trimming

variable {text : List Char}

/-- Trimming drops nothing but blanks, at the ends. -/
theorem exists_margins (text : List Char) :
    ∃ front back, text = front ++ trim text ++ back ∧
      (∀ c ∈ front, isBlank c = true) ∧ ∀ c ∈ back, isBlank c = true := by
  let kept := trimStart text
  refine ⟨text.takeWhile isBlank, (kept.reverse.takeWhile isBlank).reverse, ?_, ?_, ?_⟩
  · have ending : trim text ++ (kept.reverse.takeWhile isBlank).reverse = kept := by
      rw [trim, trimEnd, ← List.reverse_append, List.takeWhile_append_dropWhile,
        List.reverse_reverse]
    rw [List.append_assoc, ending]
    exact List.takeWhile_append_dropWhile.symm
  · exact fun c member => List.mem_takeWhile_imp member
  · exact fun c member => List.mem_takeWhile_imp (List.mem_reverse.mp member)

/-- A trimmed text has no blanks at its ends. -/
theorem trimmed_trim (filled : trim text ≠ []) : Trimmed (trim text) := by
  have last : trim text = (trimStart (trimStart text).reverse).reverse := rfl
  constructor
  · obtain ⟨c, rest, kept⟩ := List.exists_cons_of_ne_nil filled
    -- what is trimmed at the end begins as it did before
    obtain ⟨dropped, whole⟩ : trim text <+: trimStart text := by
      rw [last, ← List.reverse_suffix, List.reverse_reverse]
      exact trimStart_suffix _
    rw [kept, List.cons_append] at whole
    exact ⟨c, rest, kept, head_trimStart_not_blank whole.symm⟩
  · cases kept : trimStart (trimStart text).reverse with
    | nil => exact absurd (by rw [last, kept, List.reverse_nil]) filled
    | cons c rest =>
      exact ⟨rest.reverse, c, by rw [last, kept, List.reverse_cons], head_trimStart_not_blank kept⟩

theorem trim_concat {c : Char} (visible : isBlank c = false) (front : List Char) :
    trim (front ++ [c]) = trimStart front ++ [c] := by
  have start : trimStart (front ++ [c]) = trimStart front ++ [c] := by
    cases kept : trimStart front with
    | nil =>
      have blank : front.dropWhile isBlank = [] := kept
      simp [trimStart, List.dropWhile_append, blank, visible]
    | cons d rest =>
      have filled : front.dropWhile isBlank = d :: rest := kept
      simp [trimStart, List.dropWhile_append, filled]
  rw [trim, start, trimEnd, List.reverse_concat, List.dropWhile_cons_of_neg (by simp [visible]),
    List.reverse_cons, List.reverse_reverse]

/-- What has been collected is trimmed and makes a statement, unless nothing is left. -/
theorem settle_eq (reversed : List Char) :
    settle reversed = if trim reversed.reverse = [] then [] else [trim reversed.reverse] := by
  unfold settle
  split <;> simp_all

end Trimming

namespace Nesting.Passes

variable {text : List Char} {final : Nesting}

/-- A text that passes without a cut still does when it is trimmed. -/
theorem of_trim (passes : Passes start text final) :
    ∃ final, Passes start (trim text) final := by
  obtain ⟨front, back, whole, blank, -⟩ := exists_margins text
  rw [whole, List.append_assoc] at passes
  have inner := passes.of_append.2
  rw [after_start_of_blank blank] at inner
  exact ⟨_, inner.of_append.1⟩

private theorem of_trimStart (passes : Passes start text final) :
    Passes start (trimStart text) final := by
  have whole : text.takeWhile isBlank ++ trimStart text = text := List.takeWhile_append_dropWhile
  rw [← whole] at passes
  have inner := passes.of_append.2
  rwa [after_start_of_blank fun c member => List.mem_takeWhile_imp member] at inner

end Nesting.Passes

/-- The characters of a text that are no blanks. -/
def visibleText (text : List Char) : List Char :=
  text.filter fun c => !isBlank c

private theorem visibleText_append (front back : List Char) :
    visibleText (front ++ back) = visibleText front ++ visibleText back :=
  List.filter_append ..

private theorem visibleText_trim (text : List Char) :
    visibleText (trim text) = visibleText text := by
  obtain ⟨front, back, whole, first, last⟩ := exists_margins text
  have none {blanks : List Char} (blank : ∀ c ∈ blanks, isBlank c = true) :
      visibleText blanks = [] :=
    List.filter_eq_nil_iff.mpr fun c member => by simp [blank c member]
  conv_rhs => rw [whole, visibleText_append, visibleText_append, none first, none last]
  rw [List.nil_append, List.append_nil]

private theorem visibleText_settle (reversed : List Char) :
    visibleText (settle reversed).flatten = visibleText reversed.reverse := by
  rw [settle_eq, ← visibleText_trim reversed.reverse]
  split
  · rename_i empty
    rw [empty]
    rfl
  · rw [List.flatten_singleton]

/-- A text without the semicolons that stand outside of everything. -/
def Nesting.unseparated (nesting : Nesting) (text : List Char) : List Char :=
  ((nesting.levels text).filter fun place => place != (';', true)).map Prod.fst

section Cuts

variable {nesting : Nesting} {c : Char} {reversed : List Char}

/-- The statements that end at a cutting character. -/
def endedAt (c : Char) (reversed : List Char) : List (List Char) :=
  if c = '{' then settle (c :: reversed)
  else if c = '}' then settle reversed ++ [[c]]
  else settle reversed

/-- A character that ends a statement outside of everything cuts there. -/
theorem cutStatements_of_isCut (cut : isCut c = true) (rest : List Char) :
    cutStatements .start reversed (c :: rest) =
      endedAt c reversed ++ cutStatements .start [] rest := by
  have fed := feed_start_of_isCut cut
  simp only [isCut, Bool.or_eq_true, beq_iff_eq] at cut
  rcases cut with (rfl | rfl) | rfl <;>
    simp [cutStatements, fed, endedAt]

/-- Any other character is collected. -/
theorem cutStatements_of_uncut (uncut : (nesting.feed c).2 = true → isCut c = false)
    (rest : List Char) :
    cutStatements nesting reversed (c :: rest) =
      cutStatements (nesting.feed c).1 (c :: reversed) rest :=
  cutStatements_of_passes (.single rfl uncut) reversed rest

/-- The forms that a statement has by itself. -/
inductive IsStatement : List Char → Prop
  | closing : IsStatement ['}']
  | opening {front : List Char} : Nesting.start.Passes front .start →
      Trimmed (front ++ ['{']) → IsStatement (front ++ ['{'])
  | plain {text : List Char} {final : Nesting} : Nesting.start.Passes text final →
      Trimmed text → IsStatement text

private theorem isStatement_of_mem_settle {statement : List Char} {final : Nesting}
    (passes : Nesting.start.Passes reversed.reverse final) (member : statement ∈ settle reversed) :
    IsStatement statement := by
  rw [settle_eq] at member
  split at member
  · cases member
  · rename_i filled
    obtain rfl := List.mem_singleton.mp member
    obtain ⟨final, passes⟩ := passes.of_trim
    exact .plain passes (trimmed_trim filled)

private theorem isStatement_of_mem_endedAt {statement : List Char}
    (passes : Nesting.start.Passes reversed.reverse .start)
    (member : statement ∈ endedAt c reversed) : IsStatement statement := by
  unfold endedAt at member
  split_ifs at member with opens closes
  · have whole : trim (c :: reversed).reverse = trimStart reversed.reverse ++ ['{'] := by
      rw [List.reverse_cons, opens]
      exact trim_concat (by decide) _
    have filled : trim (c :: reversed).reverse ≠ [] := by rw [whole]; simp
    have trimmed := trimmed_trim filled
    rw [settle_eq, if_neg filled, whole] at member
    rw [whole] at trimmed
    obtain rfl := List.mem_singleton.mp member
    exact .opening passes.of_trimStart trimmed
  · rcases List.mem_append.mp member with member | member
    · exact isStatement_of_mem_settle passes member
    · obtain rfl := List.mem_singleton.mp member
      exact closes ▸ .closing
  · exact isStatement_of_mem_settle passes member

theorem passes_concat (passes : Nesting.start.Passes reversed.reverse nesting)
    (uncut : (nesting.feed c).2 = true → isCut c = false) :
    Nesting.start.Passes (c :: reversed).reverse (nesting.feed c).1 := by
  rw [List.reverse_cons]
  exact passes.append (.single rfl uncut)

/-- The text since the last cut is passed over, so every statement comes from such a text. -/
theorem isStatement_of_mem_cutStatements {text statement : List Char}
    (passes : Nesting.start.Passes reversed.reverse nesting)
    (member : statement ∈ cutStatements nesting reversed text) : IsStatement statement := by
  induction text generalizing nesting reversed with
  | nil => exact isStatement_of_mem_settle passes member
  | cons c rest ih =>
    by_cases cuts : (nesting.feed c).2 = true ∧ isCut c = true
    · obtain ⟨outside, cut⟩ := cuts
      obtain ⟨rfl, -⟩ := Nesting.eq_start_of_outside outside
      rw [cutStatements_of_isCut cut] at member
      rcases List.mem_append.mp member with member | member
      · exact isStatement_of_mem_endedAt passes member
      · exact ih (.nil _) member
    · have uncut : (nesting.feed c).2 = true → isCut c = false := by simpa using cuts
      rw [cutStatements_of_uncut uncut] at member
      exact ih (passes_concat passes uncut) member

private theorem isStatement_of_mem_splitStatements {line statement : List Char}
    (member : statement ∈ splitStatements line) : IsStatement statement :=
  isStatement_of_mem_cutStatements (.nil _) member

private theorem visibleText_endedAt (cut : isCut c = true) :
    visibleText (endedAt c reversed).flatten =
      visibleText reversed.reverse ++ if c = ';' then [] else [c] := by
  have ended (d : Char) (cut : isCut d = true) : visibleText (d :: reversed).reverse =
      visibleText reversed.reverse ++ [d] := by
    rw [List.reverse_cons, visibleText_append]
    simp [visibleText, isBlank_of_isCut cut]
  simp only [isCut, Bool.or_eq_true, beq_iff_eq] at cut
  rcases cut with (rfl | rfl) | rfl
  · change visibleText (settle reversed).flatten = _ ++ []
    rw [visibleText_settle, List.append_nil]
  · exact (visibleText_settle _).trans (ended '{' rfl)
  · change visibleText (settle reversed ++ [['}']]).flatten = _ ++ visibleText ['}']
    rw [List.flatten_append, visibleText_append, visibleText_settle]
    rfl

/-- Only blanks and separating semicolons are lost. -/
theorem visibleText_cutStatements (text : List Char) :
    visibleText (cutStatements nesting reversed text).flatten =
      visibleText reversed.reverse ++ visibleText (nesting.unseparated text) := by
  induction text generalizing nesting reversed with
  | nil => exact (visibleText_settle reversed).trans (List.append_nil _).symm
  | cons c rest ih =>
    by_cases cuts : (nesting.feed c).2 = true ∧ isCut c = true
    · obtain ⟨outside, cut⟩ := cuts
      obtain ⟨rfl, closed⟩ := Nesting.eq_start_of_outside outside
      have place : Nesting.start.unseparated (c :: rest) =
          (if c = ';' then [] else [c]) ++ Nesting.start.unseparated rest := by
        rw [Nesting.unseparated, Nesting.levels, outside, closed]
        by_cases separates : c = ';' <;> simp [Nesting.unseparated, separates]
      have ended : visibleText (if c = ';' then [] else [c]) = if c = ';' then [] else [c] := by
        split <;> simp [visibleText, isBlank_of_isCut cut]
      rw [cutStatements_of_isCut cut, List.flatten_append, visibleText_append,
        visibleText_endedAt cut, ih, place, visibleText_append, ended, List.append_assoc]
      rfl
    · have uncut : (nesting.feed c).2 = true → isCut c = false := by simpa using cuts
      have other : (c, (nesting.feed c).2) ≠ (';', true) := by
        intro same
        obtain ⟨rfl, outside⟩ := Prod.mk.inj same
        exact absurd (uncut outside) (by decide)
      have place : nesting.unseparated (c :: rest) = c :: (nesting.feed c).1.unseparated rest := by
        simp [Nesting.unseparated, Nesting.levels, other]
      rw [cutStatements_of_uncut uncut, ih, place, List.reverse_cons, visibleText_append,
        List.append_assoc, ← visibleText_append]
      rfl

private theorem splitStatements_of_passes {text : List Char} {final : Nesting}
    (passes : Nesting.start.Passes text final) : splitStatements text = settle text.reverse := by
  have whole := cutStatements_of_passes passes [] []
  rwa [List.append_nil, List.append_nil] at whole

private theorem splitStatements_of_isCut {text : List Char}
    (passes : Nesting.start.Passes text .start)
    (cut : isCut c = true) (rest : List Char) :
    splitStatements (text ++ c :: rest) = endedAt c text.reverse ++ splitStatements rest := by
  rw [splitStatements, cutStatements_of_passes passes, List.append_nil, cutStatements_of_isCut cut]
  rfl

private theorem settle_eq_append {front back : List (List Char)}
    (same : settle reversed = front ++ back)
    (more : back ≠ []) : front = [] := by
  rw [settle_eq] at same
  split at same
  · exact (List.append_eq_nil_iff.mp same.symm).1
  · rcases List.singleton_eq_append_iff.mp same with ⟨none, -⟩ | ⟨-, none⟩
    · exact none
    · exact absurd none more

/-- Only before a closing brace there is a place between statements that end at one character. -/
theorem endedAt_eq_append {front back : List (List Char)} (cut : isCut c = true)
    (same : endedAt c reversed = front ++ back) (more : back ≠ []) :
    front = [] ∨ c = '}' ∧ front = settle reversed ∧ back = [['}']] := by
  simp only [isCut, Bool.or_eq_true, beq_iff_eq] at cut
  rcases cut with (rfl | rfl) | rfl
  · exact .inl (settle_eq_append same more)
  · exact .inl (settle_eq_append same more)
  · obtain ⟨others, last, rfl⟩ := List.eq_nil_or_concat' back |>.resolve_left more
    have closing : settle reversed ++ [['}']] = (front ++ others) ++ [last] := by
      rw [List.append_assoc]
      exact same
    obtain ⟨settled, ended⟩ := List.append_inj' closing rfl
    cases others with
    | nil => exact .inr ⟨rfl, by rw [settled, List.append_nil], ended.symm⟩
    | cons other rest => exact .inl (settle_eq_append settled (List.cons_ne_nil other rest))

/-- Between two statements of a line its scan stands outside of everything, and the parts of the
line before and after that place are split by themselves. -/
def IsCutAt (line : List Char) (front back : List (List Char)) : Prop :=
  ∃ before behind, line = before ++ behind ∧ Nesting.start.after before = .start ∧
    splitStatements before = front ∧ splitStatements behind = back

private theorem isCutAt_nil (line : List Char) : IsCutAt line [] (splitStatements line) :=
  ⟨[], line, rfl, rfl, rfl, rfl⟩

private theorem isCutAt_cutStatements {text : List Char} {front back : List (List Char)}
    (passes : Nesting.start.Passes reversed.reverse nesting)
    (same : cutStatements nesting reversed text = front ++ back) (more : back ≠ []) :
    IsCutAt (reversed.reverse ++ text) front back := by
  have whole :
      splitStatements (reversed.reverse ++ text) = cutStatements nesting reversed text := by
    rw [splitStatements, cutStatements_of_passes passes, List.reverse_reverse, List.append_nil]
  induction text generalizing nesting reversed front with
  | nil =>
    obtain rfl := settle_eq_append same more
    rw [← same.trans (List.nil_append back), ← whole]
    exact isCutAt_nil _
  | cons c rest ih =>
    by_cases cuts : (nesting.feed c).2 = true ∧ isCut c = true
    · obtain ⟨outside, cut⟩ := cuts
      obtain ⟨rfl, -⟩ := Nesting.eq_start_of_outside outside
      rw [cutStatements_of_isCut cut] at same
      -- the place lies in the rest of the line, or next to the character
      have later (others : List (List Char)) (ends : front = endedAt c reversed ++ others)
          (rests : cutStatements .start [] rest = others ++ back) :
          IsCutAt (reversed.reverse ++ c :: rest) front back := by
        obtain ⟨before, behind, rfl, closed, first, second⟩ := ih (.nil _) rests rfl
        refine ⟨reversed.reverse ++ c :: before, behind, by simp, ?_, ?_, second⟩
        · rw [Nesting.after_append, passes.after_eq, Nesting.after, List.foldl_cons,
            feed_start_of_isCut cut]
          exact closed
        · rw [splitStatements_of_isCut passes cut, List.reverse_reverse, first, ends]
      rcases List.append_eq_append_iff.mp same with ⟨others, ends, rests⟩ | ⟨others, ends, rests⟩
      · exact later others ends rests
      · by_cases none : others = []
        · subst none
          exact later [] (by simpa using ends.symm) (by simpa using rests.symm)
        · rcases endedAt_eq_append cut ends none with rfl | ⟨rfl, rfl, rfl⟩
          · have all : splitStatements (reversed.reverse ++ c :: rest) = back := by
              rw [whole, cutStatements_of_isCut cut, same, List.nil_append]
            exact all ▸ isCutAt_nil _
          · have first := splitStatements_of_passes passes
            rw [List.reverse_reverse] at first
            have second : splitStatements ('}' :: rest) =
                endedAt '}' [] ++ cutStatements .start [] rest := cutStatements_of_isCut cut rest
            exact ⟨reversed.reverse, '}' :: rest, rfl, passes.after_eq, first,
              second.trans rests.symm⟩
    · have uncut : (nesting.feed c).2 = true → isCut c = false := by simpa using cuts
      have next := passes_concat passes uncut
      rw [cutStatements_of_uncut uncut] at same whole
      have shape : reversed.reverse ++ c :: rest = (c :: reversed).reverse ++ rest := by simp
      rw [shape] at whole ⊢
      exact ih next same whole

end Cuts

section Statements

variable {line statement : List Char}

private theorem IsStatement.trimmed (form : IsStatement statement) : Trimmed statement := by
  cases form with
  | closing => exact ⟨⟨'}', [], rfl, by decide⟩, [], '}', rfl, by decide⟩
  | opening _ trimmed => exact trimmed
  | plain _ trimmed => exact trimmed

/-- A statement is cut nowhere when it is split again. -/
theorem IsStatement.splitStatements_eq (form : IsStatement statement) :
    splitStatements statement = [statement] := by
  cases form with
  | closing => exact splitStatements_closing
  | opening passes trimmed => exact splitStatements_opening passes trimmed
  | plain passes trimmed =>
    rw [splitStatements_of_passes passes]
    exact settle_of_trimmed trimmed

/-- A text in which no semicolon and no closing brace stands outside of everything, and an opening
brace at most at the end. -/
def IsUncut (text : List Char) : Prop :=
  (';', true) ∉ Nesting.start.levels text ∧ ('}', true) ∉ Nesting.start.levels text ∧
    ('{', true) ∉ (Nesting.start.levels text).dropLast

private theorem IsStatement.isUncut (form : IsStatement statement) :
    statement = ['}'] ∨ IsUncut statement := by
  have uncut {c : Char} {text : List Char} {final : Nesting} (cut : isCut c = true)
      (passes : Nesting.start.Passes text final) : (c, true) ∉ Nesting.start.levels text :=
    fun member => absurd cut (by simp [passes.isCut_of_mem_levels member])
  cases form with
  | closing => exact .inl rfl
  | @opening front passes _ =>
    have last : Nesting.start.levels (front ++ ['{']) =
        Nesting.start.levels front ++ [('{', true)] := by
      rw [Nesting.levels_append, passes.after_eq]
      rfl
    refine .inr ⟨?_, ?_, ?_⟩ <;> rw [last]
    · simpa using uncut rfl passes
    · simpa using uncut rfl passes
    · simpa using uncut rfl passes
  | plain passes _ =>
    exact .inr ⟨uncut rfl passes, uncut rfl passes,
      fun member => uncut rfl passes (List.mem_of_mem_dropLast member)⟩

/-- What holds of the statements that a line is split into. -/
structure SplitsInto (line : List Char) (statements : List (List Char)) : Prop where
  /-- Nothing that is visible is lost but the semicolons outside of everything. -/
  lossless : visibleText statements.flatten = visibleText (Nesting.start.unseparated line)
  trimmed : ∀ statement ∈ statements, Trimmed statement
  uncut : ∀ statement ∈ statements, statement = ['}'] ∨ IsUncut statement
  /-- The line is never cut inside a quotation, markup or an attribute list. -/
  outside : ∀ front back, statements = front ++ back → back ≠ [] → IsCutAt line front back
  alone : ∀ statement ∈ statements, splitStatements statement = [statement]

/-- Splitting a line loses nothing but blanks and semicolons. It cuts outside of quotations, markup
and lists only, and there everywhere, so each statement stands alone and is split no further. -/
theorem splitsInto_splitStatements (line : List Char) : SplitsInto line (splitStatements line) where
  lossless := (visibleText_cutStatements line).trans (List.nil_append _)
  trimmed _ member := (isStatement_of_mem_splitStatements member).trimmed
  uncut _ member := (isStatement_of_mem_splitStatements member).isUncut
  outside _ _ same more := isCutAt_cutStatements (.nil _) same more
  alone _ member := (isStatement_of_mem_splitStatements member).splitStatements_eq

example : splitStatements " a; b \x7b c [label=\"; \x7d\"] \x7d ".toList =
    ["a", "b \x7b", "c [label=\"; \x7d\"]", "\x7d"].map String.toList := by
  decide

end Statements
end XdotViewer
