import XdotViewer.Proofs.Document.Pairs

/-! # Layout of printed documents

Each line of a printed document is one logical line with one statement on it, whatever its names
and values hold.
-/

namespace XdotViewer.Blueprint

open Ident

/-- A text on one line that a scan passes over, without blanks or a comment sign at its ends. -/
structure Solid (text : List Char) : Prop where
  passes : Nesting.start.Passes text .start
  single : '\n' ∉ text
  starts : ∃ c rest, text = c :: rest ∧ isBlank c = false ∧ c ≠ '#'
  ends : ∃ front c, text = front ++ [c] ∧ isBlank c = false

private theorem Solid.trimmed {text : List Char} (solid : Solid text) : Trimmed text := by
  obtain ⟨c, rest, shape, visible, _⟩ := solid.starts
  exact ⟨⟨c, rest, shape, visible⟩, solid.ends⟩

private theorem starts_append {front : List Char}
    (starts : ∃ c rest, front = c :: rest ∧ isBlank c = false ∧ c ≠ '#') (back : List Char) :
    ∃ c rest, front ++ back = c :: rest ∧ isBlank c = false ∧ c ≠ '#' := by
  obtain ⟨c, rest, rfl, visible, comment⟩ := starts
  exact ⟨c, rest ++ back, rfl, visible, comment⟩

section Lines

variable {text : List Char}

/-- A line with its statement. -/
def PrintedLine.Reads (line : PrintedLine) : Prop :=
  Whole line.text ∧ splitStatements line.text = [line.statement]

private theorem reads_ended (solid : Solid text) : (PrintedLine.ended text).Reads where
  left := {
    single := by simp [PrintedLine.text, solid.single]
    complete := isComplete_of_passes solid.passes rfl
    starts := starts_append solid.starts _
    ends := ⟨text, ';', rfl, by decide⟩ }
  right := splitStatements_ended solid.passes solid.trimmed

private theorem reads_opening (solid : Solid text) : (PrintedLine.opening text).Reads := by
  have passes : Nesting.start.Passes (text ++ [' ']) .start :=
    solid.passes.append (.of_plain (by simp))
  have shape : (PrintedLine.opening text).text = (text ++ [' ']) ++ ['{'] := by
    simp [PrintedLine.text]
  have starts := starts_append solid.starts ([' '] ++ ['{'])
  rw [← List.append_assoc] at starts
  have ends : ∃ front c, (text ++ [' ']) ++ ['{'] = front ++ [c] ∧ isBlank c = false :=
    ⟨_, _, rfl, by decide⟩
  refine ⟨⟨?_, ?_, ?_, ?_⟩, ?_⟩
  · simp [PrintedLine.text, solid.single]
  · rw [shape]
    exact isComplete_of_passes passes rfl
  · rwa [shape]
  · rwa [shape]
  · obtain ⟨c, rest, same, visible, _⟩ := starts
    rw [shape, splitStatements_opening passes ⟨⟨c, rest, same, visible⟩, ends⟩]
    exact congrArg (fun statement => [statement]) shape.symm

private theorem reads_closing : PrintedLine.closing.Reads := by
  refine ⟨⟨by decide, by decide, ?_, ?_⟩, splitStatements_closing⟩
  · exact ⟨'}', [], rfl, by decide, by decide⟩
  · exact ⟨[], '}', rfl, by decide⟩

/-- The statements of a text are those on its lines. -/
theorem statementTexts_unlines {lines : List PrintedLine} (reads : ∀ line ∈ lines, line.Reads) :
    statementTexts (unlines (lines.map PrintedLine.text)) = lines.map PrintedLine.statement := by
  have whole : ∀ text ∈ lines.map PrintedLine.text, Whole text := by
    intro text member
    obtain ⟨line, present, rfl⟩ := List.mem_map.mp member
    exact (reads line present).1
  rw [statementTexts, logicalLines_unlines whole]
  clear whole
  induction lines with
  | nil => rfl
  | cons line rest ih =>
    have first := (reads line (List.mem_cons_self ..)).2
    have others := ih fun other member => reads other (List.mem_cons_of_mem _ member)
    rw [List.map_cons, List.flatMap_cons, first, others]
    rfl

end Lines

section Statements

variable {name : String}

private theorem not_mem_protect {text : List Char} (paired : Paired text) :
    '\n' ∉ text.flatMap protect := by
  induction paired with
  | nil => simp
  | @char c rest _ visible _ ih =>
    by_cases quote : c = '"' <;> simp [protect, quote, ih, Ne.symm visible]
  | @pair c rest free visible _ ih => simp [protect, free, ih, Ne.symm visible]

private theorem not_mem_quotation {text : List Char} (paired : Paired text) :
    '\n' ∉ quotation text := by
  simp [quotation, not_mem_protect paired]

private theorem starts_quotation (text : List Char) :
    ∃ c rest, quotation text = c :: rest ∧ isBlank c = false ∧ c ≠ '#' :=
  ⟨'"', _, rfl, by decide, by decide⟩

private theorem passes_printPair {lists : Nat} {attr : String × String}
    (left : Paired attr.1.toList)
    (right : Paired attr.2.toList) :
    Nesting.Passes ⟨.plain, lists⟩ (printPair attr) ⟨.plain, lists⟩ := by
  have middle : Nesting.Passes ⟨.plain, lists⟩ ['='] ⟨.plain, lists⟩ := .of_plain (by simp)
  exact (Nesting.Passes.of_quotation left).append (middle.append (.of_quotation right))

private theorem passes_printPairs {lists : Nat} {attrs : AttrList} (paired : PairedAttrs attrs) :
    Nesting.Passes ⟨.plain, lists⟩ (printPairs attrs) ⟨.plain, lists⟩ := by
  induction attrs with
  | nil => exact .nil _
  | cons attr rest ih =>
    obtain ⟨left, right⟩ := paired attr (List.mem_cons_self ..)
    have others := ih fun other member => paired other (List.mem_cons_of_mem _ member)
    cases rest with
    | nil => exact passes_printPair left right
    | cons next more =>
      have gap : Nesting.Passes ⟨.plain, lists⟩ [',', ' '] ⟨.plain, lists⟩ :=
        .of_plain (by simp)
      rw [printPairs]
      · exact (passes_printPair left right).append (gap.append others)
      · exact List.cons_ne_nil next more

theorem not_mem_printPairs {attrs : AttrList} (paired : PairedAttrs attrs) :
    '\n' ∉ printPairs attrs := by
  induction attrs with
  | nil => simp [printPairs]
  | cons attr rest ih =>
    obtain ⟨left, right⟩ := paired attr (List.mem_cons_self ..)
    have others := ih fun other member => paired other (List.mem_cons_of_mem _ member)
    have first : '\n' ∉ printPair attr := by
      simp [printPair, quoteName, not_mem_quotation left, not_mem_quotation right]
    cases rest with
    | nil => exact first
    | cons next more => simp [printPairs, first, others]

private theorem passes_printList {attrs : AttrList} (paired : PairedAttrs attrs) :
    Nesting.start.Passes (printList attrs) .start := by
  have blank : Nesting.start.Passes [' '] .start := .of_plain (by simp)
  exact blank.append (.of_list (passes_printPairs paired))

/-- A statement with an attribute list is solid when what stands in front of the list is. -/
theorem solid_list {front : List Char} {attrs : AttrList} (paired : PairedAttrs attrs)
    (passes : Nesting.start.Passes front .start) (single : '\n' ∉ front)
    (starts : ∃ c rest, front = c :: rest ∧ isBlank c = false ∧ c ≠ '#') :
    Solid (front ++ printList attrs) where
  passes := passes.append (passes_printList paired)
  single := by simp [printList, single, not_mem_printPairs paired]
  starts := starts_append starts _
  ends := ⟨front ++ ' ' :: '[' :: printPairs attrs, ']', by simp [printList], by decide⟩

private theorem solid_node {attrs : AttrList} (named : Paired name.toList)
    (paired : PairedAttrs attrs) :
    Solid (quoteName name ++ printList attrs) :=
  solid_list paired (.of_quotation named) (not_mem_quotation named) (starts_quotation _)

private theorem solid_edge {tail head : String} {attrs : AttrList} (kind : GraphKind)
    (left : Paired tail.toList) (right : Paired head.toList) (paired : PairedAttrs attrs) :
    Solid (quoteName tail ++ ' ' :: kind.edgeOp.toList ++ ' ' :: quoteName head ++
      printList attrs) := by
  have operator : Nesting.start.Passes (' ' :: kind.edgeOp.toList ++ [' ']) .start :=
    .of_plain (by cases kind <;> simp [GraphKind.edgeOp])
  have shape : quoteName tail ++ ' ' :: kind.edgeOp.toList ++ ' ' :: quoteName head =
      quoteName tail ++ ((' ' :: kind.edgeOp.toList ++ [' ']) ++ quoteName head) := by simp
  have oneLine : '\n' ∉ kind.edgeOp.toList := by cases kind <;> simp [GraphKind.edgeOp]
  rw [shape]
  refine solid_list paired ?_ ?_ (starts_append (starts_quotation _) _)
  · exact (Nesting.Passes.of_quotation left).append (operator.append (.of_quotation right))
  · simp [quoteName, not_mem_quotation left, not_mem_quotation right, oneLine]

private theorem forall_of_all {text : List Char} {p : Char → Prop} [DecidablePred p]
    (all : (text.all fun c => p c) = true) : ∀ c ∈ text, p c :=
  fun c member => of_decide_eq_true (List.all_eq_true.mp all c member)

private theorem solid_defaults (scope : Scope) {attrs : AttrList} (paired : PairedAttrs attrs) :
    Solid (scope.keyword ++ printList attrs) := by
  refine solid_list paired (.of_plain ?_) ?_ ?_
  · cases scope <;> exact forall_of_all (by decide)
  · cases scope <;> decide
  · cases scope <;> exact ⟨_, _, rfl, by decide, by decide⟩

private theorem solid_assign {value : String} (named : Paired name.toList)
    (valued : Paired value.toList) :
    Solid (printPair (name, value)) where
  passes := passes_printPair named valued
  single := by simp [printPair, quoteName, not_mem_quotation named, not_mem_quotation valued]
  starts := starts_append (starts_quotation _) _
  ends := ⟨quoteName name ++ '=' :: '"' :: value.toList.flatMap protect, '"',
    by simp [printPair, quoteName, quotation], by decide⟩

/-- The beginning of a graph: a keyword and a name. -/
theorem solid_heading {keyword : List Char} (named : Paired name.toList)
    (plain : ∀ c ∈ keyword, c ∉ ['"', '<', '[', ']', ';', '{', '}']) (single : '\n' ∉ keyword)
    (starts : ∃ c rest, keyword = c :: rest ∧ isBlank c = false ∧ c ≠ '#') :
    Solid (keyword ++ ' ' :: quoteName name) where
  passes := by
    have blank : Nesting.start.Passes [' '] .start := .of_plain (by simp)
    exact (Nesting.Passes.of_plain plain).append (blank.append (.of_quotation named))
  single := by simp [quoteName, single, not_mem_quotation named]
  starts := starts_append starts _
  ends := ⟨keyword ++ ' ' :: '"' :: name.toList.flatMap protect, '"',
    by simp [quoteName, quotation], by decide⟩

end Statements

section Documents

/-- Whether all names and values of some items can stand in quotes. -/
def PairedStrings (strings : List String) : Prop :=
  ∀ text ∈ strings, Paired text.toList

theorem pairedAttrs_of_strings {attrs : AttrList} (paired : PairedStrings (attrStrings attrs)) :
    PairedAttrs attrs := by
  intro attr member
  refine ⟨paired attr.1 ?_, paired attr.2 ?_⟩ <;>
    exact List.mem_flatMap.mpr ⟨attr, member, by simp⟩

mutual

/-- Every line of a printed item is read as one statement. -/
theorem reads_print (kind : GraphKind) (item : Item) (paired : PairedStrings item.strings) :
    ∀ line ∈ item.print kind, line.Reads := by
  match item with
  | .subgraph name items =>
    have named : Paired name.toList := paired name (by simp [Item.strings])
    have inside := reads_printAll kind items fun text member =>
      paired text (by simp [Item.strings, member])
    intro line member
    simp only [Item.print, List.cons_append, List.mem_cons, List.mem_append, List.not_mem_nil,
      or_false] at member
    rcases member with rfl | member | rfl
    · refine reads_opening (solid_heading named (by simp) (by simp) ?_)
      exact ⟨'s', "ubgraph".toList, rfl, by decide, by decide⟩
    · exact inside line member
    · exact reads_closing
  | .node name attrs =>
    have named : Paired name.toList := paired name (by simp [Item.strings])
    have listed : PairedStrings (attrStrings attrs) :=
      fun text member => paired text (by simp [Item.strings, member])
    intro line member
    obtain rfl := List.mem_singleton.mp member
    exact reads_ended (solid_node named (pairedAttrs_of_strings listed))
  | .edge tail head attrs =>
    have left : Paired tail.toList := paired tail (by simp [Item.strings])
    have right : Paired head.toList := paired head (by simp [Item.strings])
    have listed : PairedStrings (attrStrings attrs) :=
      fun text member => paired text (by simp [Item.strings, member])
    intro line member
    obtain rfl := List.mem_singleton.mp member
    exact reads_ended (solid_edge kind left right (pairedAttrs_of_strings listed))
  | .defaults scope attrs =>
    have listed : PairedStrings (attrStrings attrs) :=
      fun text member => paired text (by simp [Item.strings, member])
    intro line member
    obtain rfl := List.mem_singleton.mp member
    exact reads_ended (solid_defaults scope (pairedAttrs_of_strings listed))
  | .assign name value =>
    have named : Paired name.toList := paired name (by simp [Item.strings])
    have valued : Paired value.toList := paired value (by simp [Item.strings])
    intro line member
    obtain rfl := List.mem_singleton.mp member
    exact reads_ended (solid_assign named valued)

private theorem reads_printAll (kind : GraphKind) (items : List Item)
    (paired : PairedStrings (Item.allStrings items)) :
    ∀ line ∈ Item.printAll kind items, line.Reads := by
  match items with
  | [] => exact nofun
  | item :: rest =>
    have first := reads_print kind item fun text member =>
      paired text (by simp [Item.allStrings, member])
    have others := reads_printAll kind rest fun text member =>
      paired text (by simp [Item.allStrings, member])
    intro line member
    rw [Item.printAll, List.mem_append] at member
    exact member.elim (first line) (others line)

end

variable {blueprint : Blueprint}

theorem paired_of_quotable (quotable : blueprint.Quotable) : PairedStrings blueprint.strings :=
  fun text member => (quotable text member).paired

private theorem reads_lines (quotable : blueprint.Quotable) :
    ∀ line ∈ blueprint.lines, line.Reads := by
  have paired := paired_of_quotable quotable
  have named : Paired blueprint.name.toList := paired _ (List.mem_cons_self ..)
  have inside := reads_printAll blueprint.kind blueprint.items fun text member =>
    paired text (List.mem_cons_of_mem _ member)
  intro line member
  simp only [lines, List.cons_append, List.mem_cons, List.mem_append, List.not_mem_nil,
    or_false] at member
  rcases member with rfl | member | rfl
  · refine reads_opening (solid_heading named ?_ ?_ ?_)
    · cases blueprint.strict <;> cases blueprint.kind <;> exact forall_of_all (by decide)
    · cases blueprint.strict <;> cases blueprint.kind <;> decide
    · cases blueprint.strict <;> cases blueprint.kind <;>
        exact ⟨_, _, rfl, by decide, by decide⟩
  · exact inside line member
  · exact reads_closing

/-- The statements of a printed blueprint are those of its lines, in order. -/
theorem statementTexts_print (quotable : blueprint.Quotable) :
    statementTexts blueprint.print.toList = blueprint.lines.map PrintedLine.statement := by
  rw [print, String.toList_ofList, statementTexts_unlines (reads_lines quotable)]

end Documents
end XdotViewer.Blueprint
