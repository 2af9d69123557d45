import XdotViewer.Proofs.Document.Braces
import XdotViewer.Proofs.Document.LineJoining

/-! # Lines that cannot be read

A line that ends a statement and holds nothing that can be read costs only itself. The lines above
end their statements, so it is joined with none of them, and none below is joined with it. What can
be read of the rest does not hang on what has been reported, so all that a bad line leaves behind is
a report on each of its statements, and not even that once the root graph is closed.
-/

namespace XdotViewer

section Lines

variable {front back : List Char} {line : List Char}

/-- A text behind which a line begins. -/
def EndsLine (text : List Char) : Prop :=
  text = [] ∨ text.getLast? = some '\n'

private theorem physicalLines_append_of_endsLine (ends : EndsLine front) (back : List Char) :
    physicalLines (front ++ back) = physicalLines front ++ physicalLines back := by
  rcases ends with rfl | last
  · rfl
  · obtain ⟨init, rfl⟩ := List.getLast?_eq_some_iff.mp last
    have alone : physicalLines (init ++ ['\n']) = (fields '\n' init).map dropReturn :=
      (physicalLines_append init []).trans (List.append_nil _)
    rw [List.append_assoc, List.singleton_append, physicalLines_append, alone]

/-- Where every logical line is complete, none is joined with the lines below. -/
theorem joinLines_append {opened : Option (List Char)} {first : List (List Char)}
    (second : List (List Char)) (unfinished : ∀ line, opened = some line → isComplete line = false)
    (complete : ∀ line ∈ joinLines opened first, isComplete line = true) :
    joinLines opened (first ++ second) = joinLines opened first ++ joinLines none second := by
  fun_induction joinLines opened first with
  | case1 => rfl
  | case2 line =>
    -- the text would end inside a logical line
    have whole := complete line (List.mem_singleton_self line)
    rw [unfinished line rfl] at whole
    cases whole
  | case3 raw rest line skipped ih =>
    rw [List.cons_append, joinLines, if_pos skipped]
    exact ih (by simp) complete
  | case4 raw rest line started whole ih =>
    rw [List.cons_append, joinLines, if_neg started, if_pos whole, List.cons_append,
      ih (by simp) (List.forall_mem_cons.mp complete).2]
  | case5 raw rest line started broken ih =>
    rw [List.cons_append, joinLines, if_neg started, if_neg broken]
    refine ih ?_ complete
    rintro _ ⟨⟩
    exact Bool.eq_false_iff.mpr broken
  | case6 open_ raw rest line whole ih =>
    rw [List.cons_append, joinLines, if_pos whole, List.cons_append,
      ih (by simp) (List.forall_mem_cons.mp complete).2]
  | case7 open_ raw rest line broken ih =>
    rw [List.cons_append, joinLines, if_neg broken]
    refine ih ?_ complete
    rintro _ ⟨⟩
    exact Bool.eq_false_iff.mpr broken

private theorem statementTexts_below (ends : EndsLine front)
    (complete : ∀ line ∈ logicalLines front, isComplete line = true) (back : List Char) :
    statementTexts (front ++ back) = statementTexts front ++ statementTexts back := by
  have joined : joinLines none (physicalLines front ++ physicalLines back) = _ :=
    joinLines_append (physicalLines back) nofun complete
  rw [statementTexts_eq, physicalLines_append_of_endsLine ends, lineStatements, joined,
    List.flatMap_append]
  rfl

private theorem statementTexts_insertLine (ends : EndsLine front)
    (complete : ∀ line ∈ logicalLines front, isComplete line = true) (single : '\n' ∉ line)
    (whole : isComplete line = true) (plain : ¬ IsComment line) (back : List Char) :
    statementTexts (front ++ (line ++ '\n' :: back)) =
      statementTexts front ++ (splitStatements line ++ statementTexts back) := by
  rw [statementTexts_below ends complete, statementTexts_eq (line ++ '\n' :: back),
    physicalLines_append_break single, lineStatements_dropReturn whole plain]
  rfl

end Lines

/-- A text that has none of the forms of a statement. -/
def Formless (text : List Char) : Prop :=
  RootStatement.read? text = none ∧
    ∀ form ∈ [Statement.subgraphStatement, Statement.edgeStatement, Statement.attributeStatement,
        Statement.assignment], Reading.whole? form text = none

instance (text : List Char) : Decidable (Formless text) :=
  inferInstanceAs (Decidable (_ ∧ _))

/-- A complete line in which nothing can be read. -/
structure Unreadable (line : List Char) : Prop where
  single : '\n' ∉ line
  complete : isComplete line = true
  /-- No brace stands outside of everything. -/
  braceless : ('{', true) ∉ Nesting.start.levels line ∧ ('}', true) ∉ Nesting.start.levels line
  formless : ∀ statement ∈ splitStatements line, Formless statement

section Statements

variable {nesting : Nesting} {reversed text line statement : List Char}

private theorem closing_not_mem_settle {final : Nesting}
    (passes : Nesting.start.Passes reversed.reverse final) : ['}'] ∉ settle reversed := by
  intro member
  rw [settle_eq] at member
  split at member
  · cases member
  · obtain ⟨final, passes⟩ := passes.of_trim
    rw [← List.mem_singleton.mp member] at passes
    exact absurd (passes.isCut_of_mem_levels (c := '}') (by decide)) (by decide)

private theorem closing_not_mem_endedAt {c : Char}
    (passes : Nesting.start.Passes reversed.reverse .start)
    (other : c ≠ '}') : ['}'] ∉ endedAt c reversed := by
  rw [endedAt, if_neg other]
  split
  · rename_i opens
    intro member
    have whole : trim (c :: reversed).reverse = trimStart reversed.reverse ++ [c] := by
      rw [List.reverse_cons]
      exact trim_concat (opens ▸ by decide) _
    rw [settle_eq, whole, if_neg (by simp), List.mem_singleton] at member
    have last := congrArg List.getLast? member
    rw [List.getLast?_concat] at last
    exact other (Option.some.inj last).symm
  · exact closing_not_mem_settle passes

/-- A closing brace is a statement only where it stands outside of everything. -/
theorem mem_levels_of_closing (passes : Nesting.start.Passes reversed.reverse nesting)
    (member : ['}'] ∈ cutStatements nesting reversed text) : ('}', true) ∈ nesting.levels text := by
  induction text generalizing nesting reversed with
  | nil => exact absurd member (closing_not_mem_settle passes)
  | cons c rest ih =>
    by_cases cuts : (nesting.feed c).2 = true ∧ isCut c = true
    · obtain ⟨outside, cut⟩ := cuts
      obtain ⟨rfl, closed⟩ := Nesting.eq_start_of_outside outside
      rw [Nesting.levels, outside, closed]
      rw [cutStatements_of_isCut cut] at member
      by_cases closes : c = '}'
      · exact closes ▸ List.mem_cons_self
      rcases List.mem_append.mp member with member | member
      · exact absurd member (closing_not_mem_endedAt passes closes)
      · exact List.mem_cons_of_mem _ (ih (.nil _) member)
    · have uncut : (nesting.feed c).2 = true → isCut c = false := by simpa using cuts
      rw [cutStatements_of_uncut uncut] at member
      exact List.mem_cons_of_mem _ (ih (passes_concat passes uncut) member)

private theorem Unreadable.read?_eq_none (bad : Unreadable line)
    (member : statement ∈ splitStatements line) :
    RootStatement.read? statement = none ∧ Statement.read? statement = none := by
  obtain ⟨root, forms⟩ := bad.formless statement member
  have other : statement ≠ ['}'] := by
    rintro rfl
    exact bad.braceless.2 (mem_levels_of_closing (.nil _) member)
  simp only [List.forall_mem_cons, List.not_mem_nil, false_implies, implies_true, and_true] at forms
  obtain ⟨subgraph, edge, attributes, assignment⟩ := forms
  refine ⟨root, ?_⟩
  rw [Statement.read?, if_neg other, subgraph, edge, attributes, assignment]
  rfl

end Statements

namespace Assembly

variable {palettes : Palettes} {a : Assembly} {earlier : List Diagnostic}

/-- The same document under construction with earlier reports. -/
def preceded (a : Assembly) (earlier : List Diagnostic) : Assembly :=
  { a with diagnostics := earlier ++ a.diagnostics }

private theorem report_preceded (earlier new : List Diagnostic) :
    (a.preceded earlier).report new = (a.report new).preceded earlier := by
  simp [preceded, report]

/-- What has been reported is not looked at again. -/
theorem setAttr_preceded (slot : AttrSlot) (attr : String × String) :
    setAttr palettes slot (a.preceded earlier) attr =
      (setAttr palettes slot a attr).preceded earlier := by
  unfold setAttr
  simp only
  split
  · rfl
  · split
    · simp [updateMetadata, report, preceded]
    · rfl

private theorem applyList?_preceded (a : Assembly) (slot : AttrSlot) (list : Option (List Char)) :
    (a.preceded earlier).applyList? palettes slot list =
      (a.applyList? palettes slot list).preceded earlier := by
  have stores (attrs : List (String × String)) :
      attrs.foldl (setAttr palettes slot) (a.preceded earlier) =
        (attrs.foldl (setAttr palettes slot) a).preceded earlier := by
    induction attrs generalizing a with
    | nil => rfl
    | cons attr rest ih => rw [List.foldl_cons, setAttr_preceded, ih, List.foldl_cons]
  cases list with
  | none => rfl
  | some list =>
    unfold applyList? applyList
    simp only [stores]
    split
    · rfl
    · exact report_preceded _ _

private theorem perform_preceded (container : GraphId) (statement : Statement) :
    (a.preceded earlier).perform palettes container statement =
      (a.perform palettes container statement).preceded earlier := by
  cases statement with
  | close => rfl
  | subgraph name => rfl
  | edge tail head list => exact applyList?_preceded { a with scene := _ } _ list
  | attributes subject list => exact applyList?_preceded { a with scene := _ } _ list
  | assign name value => exact setAttr_preceded _ (name, value)

private theorem step_preceded (text : List Char) :
    step palettes (a.preceded earlier) text = (step palettes a text).preceded earlier := by
  cases opened : a.openGraphs with
  | nil =>
    have same : (a.preceded earlier).openGraphs = [] := opened
    simp only [step, opened, same]
  | cons container outer =>
    have same : (a.preceded earlier).openGraphs = container :: outer := opened
    simp only [step, opened, same]
    split
    · exact perform_preceded container _
    · exact report_preceded _ _

private theorem run_preceded (texts : List (List Char)) :
    (a.preceded earlier).run palettes texts = (a.run palettes texts).preceded earlier := by
  induction texts generalizing a with
  | nil => rfl
  | cons text rest ih => rw [run_cons, step_preceded, ih, run_cons]

/-- Statements that cannot be read are reported, as long as a graph is open. -/
theorem run_of_unread {texts : List (List Char)} (opened : a.openGraphs ≠ [])
    (unread : ∀ text ∈ texts, Statement.read? text = none) :
    a.run palettes texts =
      a.report (texts.map fun text => .unreadableLine (String.ofList text)) := by
  induction texts generalizing a with
  | nil => simp [run, report]
  | cons text rest ih =>
    obtain ⟨first, others⟩ := List.forall_mem_cons.mp unread
    have reported : step palettes a text = a.report [.unreadableLine (String.ofList text)] := by
      unfold step
      split
      · rename_i closed
        exact absurd closed opened
      · rw [first]
    rw [run_cons, reported, ih (a := a.report _) opened others]
    simp [report]

end Assembly

namespace Document

open Assembly

variable {palettes : Palettes} {texts : List (List Char)}

section Costs

/-- What is reported on the statements of a part of a document. -/
def reportsOn (palettes : Palettes) (texts : List (List Char)) : List Diagnostic :=
  match findRoot? texts with
  | none => texts.map fun text => .expectedGraph (String.ofList text)
  | some (reports, root, rest) => ((start root reports).run palettes rest).diagnostics

/-- The reports on statements that cannot be read, below others: one on each, if the root graph is
still sought or open, and none once it is closed. -/
inductive CostsBelow (palettes : Palettes) (above statements : List (List Char)) :
    List Diagnostic → Prop
  | sought : findRoot? above = none →
    CostsBelow palettes above statements
      (statements.map fun text => .expectedGraph (String.ofList text))
  | inside {reports : List Diagnostic} {root : RootStatement} {rest : List (List Char)} :
    findRoot? above = some (reports, root, rest) →
    ((start root reports).run palettes rest).openGraphs ≠ [] →
    CostsBelow palettes above statements
      (statements.map fun text => .unreadableLine (String.ofList text))
  | closed {reports : List Diagnostic} {root : RootStatement} {rest : List (List Char)} :
    findRoot? above = some (reports, root, rest) →
    ((start root reports).run palettes rest).openGraphs = [] →
    CostsBelow palettes above statements []

/-- Between the parts of a text a line costs only itself: no graph is found with it nor without it,
or the documents differ in the reports on its statements only. -/
def CostsOnlyItself (palettes : Palettes) (front line back : String) : Prop :=
  (read palettes (front ++ back) = .error .noGraph ∧
    read palettes (front ++ line ++ "\n" ++ back) = .error .noGraph) ∨
  ∃ without including inserted later,
    read palettes (front ++ back) = .ok without ∧
    read palettes (front ++ line ++ "\n" ++ back) = .ok including ∧
    including.scene = without.scene ∧ including.metadata = without.metadata ∧
    without.diagnostics = reportsOn palettes (statementTexts front.toList) ++ later ∧
    including.diagnostics =
      reportsOn palettes (statementTexts front.toList) ++ inserted ++ later ∧
    CostsBelow palettes (statementTexts front.toList) (splitStatements line.toList) inserted

private theorem finish_run_preceded (a : Assembly) (earlier : List Diagnostic) :
    finish ((a.preceded earlier).run palettes texts) =
      { finish (a.run palettes texts) with
        diagnostics := earlier ++ (finish (a.run palettes texts)).diagnostics } := by
  rw [run_preceded]
  unfold finish preceded
  simp only
  split
  · rfl
  · rw [List.append_assoc]

section Insertion

variable {front line back : String}

/-- Documents whose assembly differs in earlier reports only. -/
theorem costsOnlyItself_of_preceded (a : Assembly) (rest : List (List Char))
    {inserted : List Diagnostic}
    (without : read palettes (front ++ back) = .ok (finish
      ((a.preceded (reportsOn palettes (statementTexts front.toList))).run palettes rest)))
    (including : read palettes (front ++ line ++ "\n" ++ back) = .ok (finish
      ((a.preceded (reportsOn palettes (statementTexts front.toList) ++ inserted)).run palettes
        rest)))
    (cost : CostsBelow palettes (statementTexts front.toList) (splitStatements line.toList)
      inserted) : CostsOnlyItself palettes front line back := by
  rw [finish_run_preceded] at without including
  exact .inr ⟨_, _, inserted, _, without, including, rfl, rfl, rfl, rfl, cost⟩

/-- Above the root graph. -/
theorem costsOnlyItself_of_sought (found : findRoot? (statementTexts front.toList) = none)
    (noRoot : findRoot? (splitStatements line.toList) = none)
    (texts : statementTexts (front ++ back).toList =
      statementTexts front.toList ++ statementTexts back.toList)
    (longer : statementTexts (front ++ line ++ "\n" ++ back).toList =
      statementTexts front.toList ++
        (splitStatements line.toList ++ statementTexts back.toList)) :
    CostsOnlyItself palettes front line back := by
  have first := findRoot?_append_of_none found (statementTexts back.toList)
  have second := findRoot?_append_of_none found
    (splitStatements line.toList ++ statementTexts back.toList)
  rw [findRoot?_append_of_none noRoot] at second
  cases later : findRoot? (statementTexts back.toList) with
  | none =>
    rw [later] at first second
    exact .inl ⟨by rw [read, texts, first]; rfl, by rw [read, longer, second]; rfl⟩
  | some opening =>
    obtain ⟨reports, root, rest⟩ := opening
    rw [later] at first second
    refine costsOnlyItself_of_preceded (start root reports) rest ?_ ?_ (.sought found)
    · rw [read, texts, first, reportsOn, found]
      rfl
    · rw [read, longer, second, reportsOn, found, preceded, List.append_assoc]
      rfl

/-- Inside or below the root graph. -/
theorem costsOnlyItself_of_found {reports : List Diagnostic} {root : RootStatement}
    {rest : List (List Char)}
    (found : findRoot? (statementTexts front.toList) = some (reports, root, rest))
    (unread : ∀ text ∈ splitStatements line.toList, Statement.read? text = none)
    (texts : statementTexts (front ++ back).toList =
      statementTexts front.toList ++ statementTexts back.toList)
    (longer : statementTexts (front ++ line ++ "\n" ++ back).toList =
      statementTexts front.toList ++
        (splitStatements line.toList ++ statementTexts back.toList)) :
    CostsOnlyItself palettes front line back := by
  let above := (start root reports).run palettes rest
  let bare : Assembly := { above with diagnostics := [] }
  have reported : reportsOn palettes (statementTexts front.toList) = above.diagnostics := by
    rw [reportsOn, found]
  have whole : bare.preceded above.diagnostics = above := by simp [bare, preceded]
  have grown (new : List Diagnostic) :
      bare.preceded (above.diagnostics ++ new) = above.report new := by
    simp [bare, preceded, report]
  have first : read palettes (front ++ back) =
      .ok (finish (above.run palettes (statementTexts back.toList))) := by
    rw [read, texts, findRoot?_append_of_some found]
    simp only [run_append]
    rfl
  have second : read palettes (front ++ line ++ "\n" ++ back) = .ok (finish
      ((above.run palettes (splitStatements line.toList)).run palettes
        (statementTexts back.toList))) := by
    rw [read, longer, findRoot?_append_of_some found]
    simp only [run_append]
    rfl
  by_cases closed : above.openGraphs = []
  · have same : above.run palettes (splitStatements line.toList) = above := run_of_closed closed
    rw [same] at second
    refine costsOnlyItself_of_preceded bare (statementTexts back.toList) ?_ ?_
      (.closed found closed)
    · rw [reported, whole, first]
    · rw [reported, List.append_nil, whole, second]
  · rw [run_of_unread closed unread] at second
    refine costsOnlyItself_of_preceded bare (statementTexts back.toList) ?_ ?_
      (.inside found closed)
    · rw [reported, whole, first]
    · rw [reported, grown, second]

/-- A bad line costs only itself, wherever it is put between complete lines. -/
theorem read_insertLine (palettes : Palettes) (ends : EndsLine front.toList)
    (complete : ∀ above ∈ logicalLines front.toList, isComplete above = true)
    (bad : Unreadable line.toList) (plain : ¬ IsComment line.toList) :
    CostsOnlyItself palettes front line back := by
  have texts : statementTexts (front ++ back).toList =
      statementTexts front.toList ++ statementTexts back.toList := by
    rw [String.toList_append, statementTexts_below ends complete]
  have longer : statementTexts (front ++ line ++ "\n" ++ back).toList =
      statementTexts front.toList ++
        (splitStatements line.toList ++ statementTexts back.toList) := by
    rw [← statementTexts_insertLine ends complete bad.single bad.complete plain]
    simp
  cases found : findRoot? (statementTexts front.toList) with
  | none =>
    have noRoot : findRoot? (splitStatements line.toList) = none :=
      findRoot?_eq_none fun text member => (bad.read?_eq_none member).1
    exact costsOnlyItself_of_sought found noRoot texts longer
  | some opening =>
    exact costsOnlyItself_of_found found (fun text member => (bad.read?_eq_none member).2) texts
      longer

/-- Two statements without a form, on a line that ends in a return. -/
theorem read_insertLine_formless :
    let front := "# a graph\ndigraph G \x7b\n  a;\n"
    let line := "\ta b; -> \"\x7d\";\r"
    EndsLine front.toList ∧ (∀ above ∈ logicalLines front.toList, isComplete above = true) ∧
      Unreadable line.toList ∧ ¬ IsComment line.toList ∧
      splitStatements line.toList = ["a b".toList, "-> \"\x7d\"".toList] ∧
      CostsOnlyItself .minimal front line "b\n\x7d" := by
  intro front line
  have ends : EndsLine front.toList := .inr (by decide)
  have complete : ∀ above ∈ logicalLines front.toList, isComplete above = true := by decide
  have bad : Unreadable line.toList := ⟨by decide, by decide, by decide, by decide +kernel⟩
  have plain : ¬ IsComment line.toList := by decide
  exact ⟨ends, complete, bad, plain, by decide, read_insertLine .minimal ends complete bad plain⟩

/-- An indented comment is not reported, though its line does not start with the sign. -/
theorem not_costsOnlyItself_indentedComment :
    let front := "digraph G \x7b\n"
    let line := "  # foo;"
    EndsLine front.toList ∧ (∀ above ∈ logicalLines front.toList, isComplete above = true) ∧
      Unreadable line.toList ∧ line.toList.head? ≠ some '#' ∧
      ¬ CostsOnlyItself .minimal front line "\x7d\n" := by
  intro front line
  have bad : Unreadable line.toList := ⟨by decide, by decide, by decide, by decide +kernel⟩
  refine ⟨.inr (by decide), by decide, bad, by decide, ?_⟩
  have found : findRoot? (statementTexts front.toList) =
      some ([], ⟨false, .directed, "G"⟩, []) := by decide +kernel
  have silent : (read .minimal (front ++ line ++ "\n" ++ "\x7d\n")).toOption.map diagnostics =
      some [] := by decide +kernel
  rintro (⟨-, none⟩ | ⟨_, including, inserted, later, -, second, -, -, -, reports, cost⟩)
  · rw [none] at silent
    cases silent
  · rw [second] at silent
    rw [Option.some.inj silent] at reports
    have empty : inserted = [] :=
      (List.append_eq_nil_iff.mp (List.append_eq_nil_iff.mp reports.symm).1).2
    cases cost with
    | sought none =>
      rw [found] at none
      cases none
    | inside _ _ =>
      have split : splitStatements line.toList = ["# foo".toList] := by decide
      rw [split] at empty
      cases empty
    | closed here closed =>
      rw [found] at here
      cases here
      cases closed

end Insertion

end Costs
end Document
end XdotViewer
