import XdotViewer.Proofs.Document.Blueprint
import XdotViewer.Proofs.Document.Openers

/-! # Reading printed statements

Each printed statement is read as the statement that it was printed from, although the forms of
statements overlap: quotations are read in one way, and what stands between them decides the form.
-/

namespace XdotViewer.Blueprint

open Reading Ident Statement

section Quotations

variable {content : List Char}

theorem quotation_append (content rest : List Char) :
    quotation content ++ rest = '"' :: (content.flatMap protect ++ '"' :: rest) := by
  simp only [quotation, List.cons_append, List.append_assoc, List.nil_append]

/-- A quotation stands at the front as it is: no blank does. -/
theorem trimStart_quotation (rest : List Char) :
    trimStart (quotation content ++ rest) = quotation content ++ rest := by
  rw [quotation_append, trimStart_of_head (by decide)]

theorem margin_quotation (rest : List Char) :
    margin (quotation content ++ rest) = [((), quotation content ++ rest)] := by
  rw [margin, trimStart_quotation, quotation_append]
  simp [blankStarts, show isBlank '"' = false by decide]

private theorem margin_blank_quotation (rest : List Char) :
    margin (' ' :: (quotation content ++ rest)) = [((), quotation content ++ rest)] := by
  have trimmed : trimStart (' ' :: (quotation content ++ rest)) = quotation content ++ rest := by
    rw [trimStart, List.dropWhile_cons_of_pos (by decide)]
    exact trimStart_quotation rest
  rw [margin, trimmed, quotation_append]
  simp [blankStarts, show isBlank '"' = false by decide, show isBlank ' ' = true by decide,
    show isWordStart ' ' = false by decide]

private theorem someMargin_quotation (rest : List Char) :
    someMargin (' ' :: (quotation content ++ rest)) = [((), quotation content ++ rest)] := by
  rw [someMargin, if_pos (by decide), margin_quotation]

end Quotations

section Openings

private theorem opening_of_ne {text : List Char}
    (other : trimStart text ≠ ['{']) : opening text = [] :=
  List.eq_nil_iff_forall_not_mem.mpr fun _ member => other (trimStart_of_mem_opening member)

private theorem opening_quotation (content rest : List Char) :
    opening (quotation content ++ rest) = [] := by
  apply opening_of_ne
  rw [trimStart_quotation, quotation_append]
  simp

private theorem opening_gap (content rest : List Char) :
    opening (' ' :: (quotation content ++ rest)) = [] := by
  apply opening_of_ne
  rw [trimStart, List.dropWhile_cons_of_pos (by decide), ← trimStart, trimStart_quotation,
    quotation_append]
  simp

private theorem opening_word {c : Char} {rest : List Char} (letter : isLetter c = true) :
    opening (c :: rest) = [] := by
  apply opening_of_ne
  rw [trimStart_of_head (isBlank_of_isLetter letter)]
  intro same
  cases same
  revert letter
  decide

private theorem opening_brace : opening [' ', '{'] = [((), [])] := by
  decide

/-- The beginning of a subgraph is no name of one. -/
theorem subgraphStatement_printed {name : String} (paired : Paired name.toList) :
    subgraphStatement ("subgraph".toList ++ ' ' :: (quotation name.toList ++ [' ', '{'])) =
      [(.subgraph name, [])] := by
  let named := quotation name.toList ++ [' ', '{']
  have word : Ident.reading ("subgraph".toList ++ ' ' :: named) =
      [("subgraph".toList, ' ' :: named)] :=
    reading_word (by simp) (by simp [isLetter]) (by decide)
  have lead : (do keyword "subgraph".toList; someMargin : Reading Unit)
      ("subgraph".toList ++ ' ' :: named) = [((), named)] := by
    rw [bind_of_single (keyword_append (by simp) _)]
    exact someMargin_quotation _
  have bare : opening ("subgraph".toList ++ ' ' :: named) = [] := by
    simp [opening_word, isLetter]
  unfold subgraphStatement
  rw [optional_bind_of_single lead, optional_bind_of_single (reading_quotation paired _),
    optional_bind_of_single word, bind_of_single opening_brace,
    bind_of_nil (opening_quotation _ _), bind_of_nil (opening_gap _ _), bind_of_nil bare,
    pure_apply, Option.map_some, Option.getD_some, text_quotation]
  rfl

end Openings

section Forms

variable {written rest list : List Char} {stop : Char}

/-- A name that no attachment follows. -/
theorem nodeName_of_single
    (single : Ident.reading (written ++ stop :: rest) = [(written, stop :: rest)])
    (other : stop ≠ ':') : nodeName (written ++ stop :: rest) = [(written, stop :: rest)] := by
  have none : attachment (stop :: rest) = [] := by
    rw [attachment, bind_of_nil]
    simp [character, other]
  unfold nodeName
  rw [bind_of_single single, bind_of_single (optional_of_nil (bind_of_nil none))]
  rfl

private theorem blanks_gap (visible : isBlank stop = false) :
    blanks (' ' :: stop :: rest) = [((), stop :: rest)] := by
  rw [blanks, trimStart, List.dropWhile_cons_of_pos (by decide), ← trimStart,
    trimStart_of_head visible]

theorem blanks_of_head (visible : isBlank stop = false) :
    blanks (stop :: rest) = [((), stop :: rest)] := by
  rw [blanks, trimStart_of_head visible]

private theorem edgeOperator_of_ne (other : stop ≠ '-') : edgeOperator (stop :: rest) = [] := by
  simp [edgeOperator, orElse, exactly, spelled_cons, Ne.symm other]

private theorem edgeOperator_edgeOp (kind : GraphKind) (rest : List Char) :
    edgeOperator (kind.edgeOp.toList ++ rest) = [((), rest)] := by
  cases kind <;> simp [GraphKind.edgeOp, edgeOperator, orElse, exactly, spelled,
    pure_apply]

private theorem ending_list (single : '\n' ∉ list) :
    ending (' ' :: '[' :: (list ++ [']'])) = [(some list, [])] := by
  have bracketed : listAtEnd ('[' :: (list ++ [']'])) = [(list, [])] := by
    simp [listAtEnd, single]
  have lead : (do blanks; listAtEnd : Reading (List Char)) (' ' :: '[' :: (list ++ [']'])) =
      [(list, [])] := by
    rw [bind_of_single (blanks_gap (by decide)), bracketed]
  unfold ending
  rw [optional_bind_of_single lead]
  rfl

private theorem ending_of_ne (visible : isBlank stop = false) (other : stop ≠ '[') :
    ending (stop :: rest) = [] := by
  have none : (do blanks; listAtEnd : Reading (List Char)) (stop :: rest) = [] := by
    rw [bind_of_single (blanks_of_head visible)]
    simp [listAtEnd, other]
  unfold ending
  rw [bind_of_single (optional_of_nil none)]
  rfl

/-- A name with a list is no edge. -/
theorem edgeStatement_list
    (single : Ident.reading (written ++ ' ' :: '[' :: rest) = [(written, ' ' :: '[' :: rest)]) :
    edgeStatement (written ++ ' ' :: '[' :: rest) = [] := by
  unfold edgeStatement
  rw [bind_of_single (nodeName_of_single single (by decide)),
    bind_of_single (blanks_gap (by decide)), bind_of_nil (edgeOperator_of_ne (by decide))]

private theorem attributeStatement_list (oneLine : '\n' ∉ list)
    (single : Ident.reading (written ++ ' ' :: '[' :: (list ++ [']'])) =
      [(written, ' ' :: '[' :: (list ++ [']']))]) :
    attributeStatement (written ++ ' ' :: '[' :: (list ++ [']'])) =
      [(.attributes (subjectOf written) (some list), [])] := by
  unfold attributeStatement
  rw [bind_of_single (nodeName_of_single single (by decide)),
    bind_of_single (ending_list oneLine)]
  rfl

private theorem read?_list (oneLine : '\n' ∉ list)
    (single : Ident.reading (written ++ ' ' :: '[' :: (list ++ [']'])) =
      [(written, ' ' :: '[' :: (list ++ [']']))]) :
    Statement.read? (written ++ ' ' :: '[' :: (list ++ [']'])) =
      some (.attributes (subjectOf written) (some list)) := by
  have plain : ¬ opensBlock (written ++ ' ' :: '[' :: (list ++ [']'])) := by
    simp [opensBlock, List.getLast?_cons]
  have other : written ++ ' ' :: '[' :: (list ++ [']']) ≠ ['}'] := by
    simp [List.append_eq_singleton_iff]
  rw [Statement.read?, if_neg other, subgraphStatement_eq_none plain,
    whole?_of_nil (edgeStatement_list single),
    whole?_of_single (attributeStatement_list oneLine single)]
  rfl

end Forms

section Statements

/-- The opener of a subgraph is read as one. -/
theorem read?_subgraph {name : String} (paired : Paired name.toList) :
    Statement.read? ("subgraph".toList ++ ' ' :: (quotation name.toList ++ [' ', '{'])) =
      some (.subgraph name) := by
  have opens : opensBlock ("subgraph".toList ++ ' ' :: (quotation name.toList ++ [' ', '{'])) := by
    simp [opensBlock, List.getLast?_cons]
  rw [read?_of_opensBlock opens, whole?_of_single (subgraphStatement_printed paired)]

/-- A quoted keyword is a name like any other. -/
theorem subjectOf_quotation (name : String) :
    subjectOf (quotation name.toList) = .node name := by
  have other : ∀ c rest, c ≠ '"' →
      String.ofList ((quotation name.toList).map Char.toLower) ≠ String.ofList (c :: rest) := by
    intro c rest different same
    have chars := String.ofList_injective same
    rw [quotation, List.cons_append, List.map_cons, List.cons.injEq] at chars
    exact different chars.1.symm
  unfold subjectOf
  split
  · rename_i same
    exact absurd same (other 'g' "raph".toList (by decide))
  · rename_i same
    exact absurd same (other 'n' "ode".toList (by decide))
  · rename_i same
    exact absurd same (other 'e' "dge".toList (by decide))
  · rw [text_quotation]

/-- A node with a list of attributes is read as one. -/
theorem read?_node {name : String} {list : List Char} (paired : Paired name.toList)
    (oneLine : '\n' ∉ list) :
    Statement.read? (quotation name.toList ++ ' ' :: '[' :: (list ++ [']'])) =
      some (.attributes (.node name) (some list)) := by
  rw [read?_list oneLine (reading_quotation paired _), subjectOf_quotation]

/-- What a scope's keyword is about. -/
def Scope.subject : Scope → Subject
  | graph => .graph
  | nodes => .nodeDefaults
  | edges => .edgeDefaults

private theorem subjectOf_keyword (scope : Scope) : subjectOf scope.keyword = scope.subject := by
  cases scope <;> rfl

/-- A list of defaults is read as one. -/
theorem read?_defaults (scope : Scope) {list : List Char} (oneLine : '\n' ∉ list) :
    Statement.read? (scope.keyword ++ ' ' :: '[' :: (list ++ [']'])) =
      some (.attributes scope.subject (some list)) := by
  have filled : scope.keyword ≠ [] := by cases scope <;> decide
  have letters : ∀ c ∈ scope.keyword, isLetter c = true := by
    cases scope <;> exact List.all_eq_true.mp (by decide)
  rw [read?_list oneLine (reading_word filled letters (by decide)), subjectOf_keyword]

private theorem edgeStatement_printed {tail head : String} {list : List Char} (kind : GraphKind)
    (left : Paired tail.toList) (right : Paired head.toList) (oneLine : '\n' ∉ list) :
    edgeStatement (quotation tail.toList ++ ' ' :: (kind.edgeOp.toList ++ ' ' ::
        (quotation head.toList ++ ' ' :: '[' :: (list ++ [']'])))) =
      [(.edge tail head (some list), [])] := by
  have visible : ∀ rest, blanks (' ' :: (kind.edgeOp.toList ++ rest)) =
      [((), kind.edgeOp.toList ++ rest)] := by
    intro rest
    cases kind <;> exact blanks_gap (by decide)
  unfold edgeStatement
  rw [bind_of_single (nodeName_of_single (reading_quotation left _) (by decide)),
    bind_of_single (visible _), bind_of_single (edgeOperator_edgeOp kind _),
    bind_of_single (margin_blank_quotation _),
    bind_of_single (nodeName_of_single (reading_quotation right _) (by decide)),
    bind_of_single (ending_list oneLine), pure_apply, text_quotation, text_quotation]

/-- An edge with a list of attributes is read as one. -/
theorem read?_edge {tail head : String} {list : List Char} (kind : GraphKind)
    (left : Paired tail.toList) (right : Paired head.toList) (oneLine : '\n' ∉ list) :
    Statement.read? (quotation tail.toList ++ ' ' :: (kind.edgeOp.toList ++ ' ' ::
        (quotation head.toList ++ ' ' :: '[' :: (list ++ [']'])))) =
      some (.edge tail head (some list)) := by
  have printed := edgeStatement_printed kind left right oneLine
  generalize shape : quotation tail.toList ++ ' ' :: (kind.edgeOp.toList ++ ' ' ::
    (quotation head.toList ++ ' ' :: '[' :: (list ++ [']']))) = statement at printed
  have plain : ¬ opensBlock statement := by
    simp [← shape, opensBlock, List.getLast?_cons]
  have other : statement ≠ ['}'] := by
    simp [← shape, List.append_eq_singleton_iff]
  rw [Statement.read?, if_neg other, subgraphStatement_eq_none plain, whole?_of_single printed]
  rfl

/-- A name and its value are no edge, and no name with a list. -/
theorem read?_assign {name value : String} (left : Paired name.toList)
    (right : Paired value.toList) :
    Statement.read? (quotation name.toList ++ '=' :: quotation value.toList) =
      some (.assign name value) := by
  have named (rest : List Char) := reading_quotation left ('=' :: rest)
  have valued : Ident.reading (quotation value.toList) = [(quotation value.toList, [])] := by
    have single := reading_quotation right []
    rwa [List.append_nil] at single
  have margin : Ident.margin (quotation value.toList) = [((), quotation value.toList)] := by
    rw [← List.append_nil (quotation value.toList)]
    exact margin_quotation []
  have edge : edgeStatement (quotation name.toList ++ '=' :: quotation value.toList) = [] := by
    unfold edgeStatement
    rw [bind_of_single (nodeName_of_single (named _) (by decide)),
      bind_of_single (blanks_of_head (by decide)), bind_of_nil (edgeOperator_of_ne (by decide))]
  have attributes :
      attributeStatement (quotation name.toList ++ '=' :: quotation value.toList) = [] := by
    unfold attributeStatement
    rw [bind_of_single (nodeName_of_single (named _) (by decide)),
      bind_of_nil (ending_of_ne (by decide) (by decide))]
  have assigned : assignment (quotation name.toList ++ '=' :: quotation value.toList) =
      [(.assign name value, [])] := by
    unfold assignment
    rw [bind_of_single (named _), bind_of_single (blanks_of_head (by decide)),
      bind_of_single (show character '=' ('=' :: _) = _ from rfl), bind_of_single margin,
      bind_of_single valued, bind_of_single (show atEnd [] = [((), [])] from rfl), pure_apply,
      text_quotation, text_quotation]
  have plain : ¬ opensBlock (quotation name.toList ++ '=' :: quotation value.toList) := by
    simp [opensBlock, List.getLast?_cons, quotation]
  have other : quotation name.toList ++ '=' :: quotation value.toList ≠ ['}'] := by
    simp [quotation]
  rw [Statement.read?, if_neg other, subgraphStatement_eq_none plain, whole?_of_nil edge,
    whole?_of_nil attributes, whole?_of_single assigned]
  rfl

end Statements

section Root

/-- The word for the kind of a graph. -/
def kindReading : Reading GraphKind :=
  orElse (do keyword "graph".toList; return .undirected)
    (do keyword "digraph".toList; return .directed)

private theorem kindReading_keyword (kind : GraphKind) (rest : List Char) :
    kindReading (kindKeyword kind ++ rest) = [(kind, rest)] := by
  have graph (text : List Char) : (do keyword "graph".toList; return .undirected :
      Reading GraphKind) ("graph".toList ++ text) = [(.undirected, text)] := by
    rw [bind_of_single (keyword_append (by simp) text), pure_apply]
  have digraph (text : List Char) : (do keyword "digraph".toList; return .directed :
      Reading GraphKind) ("digraph".toList ++ text) = [(.directed, text)] := by
    rw [bind_of_single (keyword_append (by simp) text), pure_apply]
  cases kind with
  | directed =>
    refine (congrArg₂ (· ++ ·) (bind_of_nil ?_) (digraph rest)).trans (List.nil_append _)
    exact keyword_of_ne (by decide) _ _
  | undirected =>
    refine (congrArg₂ (· ++ ·) (graph rest) (bind_of_nil ?_)).trans (List.append_nil _)
    exact keyword_of_ne (by decide) _ _

private theorem kindReading_strict (rest : List Char) :
    kindReading ("strict".toList ++ rest) = [] := by
  rw [kindReading, orElse, bind_of_nil, bind_of_nil]
  · rfl
  · exact keyword_of_ne (by decide) _ _
  · exact keyword_of_ne (by decide) _ _

private theorem keyword_strict_kindKeyword (kind : GraphKind) (rest : List Char) :
    keyword "strict".toList (kindKeyword kind ++ rest) = [] := by
  cases kind <;> exact keyword_of_ne (by decide) _ _

/-- The name at the end of a root statement. -/
theorem rootName_printed {name : String} (paired : Paired name.toList)
    (next : Option (List Char) → RootStatement) :
    (do
      let name ← optional do
        someMargin
        Ident.reading
      opening
      return next name : Reading RootStatement)
        (' ' :: (quotation name.toList ++ [' ', '{'])) =
      [(next (some (quotation name.toList)), [])] := by
  have named : (do someMargin; Ident.reading : Reading (List Char))
      (' ' :: (quotation name.toList ++ [' ', '{'])) =
      [(quotation name.toList, [' ', '{'])] := by
    rw [bind_of_single (someMargin_quotation _), reading_quotation paired]
  rw [optional_bind_of_single named, bind_of_single opening_brace, bind_of_nil (opening_gap _ _)]
  rfl

/-- The first line of a document opens a graph of its kind. -/
theorem rootStatement_printed (strict : Bool) (kind : GraphKind) {name : String}
    (paired : Paired name.toList) :
    RootStatement.read? ((if strict then "strict".toList ++ [' '] else []) ++
        (kindKeyword kind ++ ' ' :: (quotation name.toList ++ [' ', '{']))) =
      some ⟨strict, kind, name⟩ := by
  apply whole?_of_single
  have kinds := kindReading_keyword kind (' ' :: (quotation name.toList ++ [' ', '{']))
  unfold RootStatement.reading
  cases strict with
  | false =>
    rw [if_neg (by decide), List.nil_append,
      bind_of_single (optional_of_nil (bind_of_nil (keyword_strict_kindKeyword kind _)))]
    refine (bind_of_single kinds).trans ?_
    rw [rootName_printed paired fun name => ⟨_, kind, (name.map Ident.text).getD ""⟩,
      Option.map_some, Option.getD_some, text_quotation]
    rfl
  | true =>
    have strictly : (do keyword "strict".toList; someBlanks : Reading Unit)
        ("strict".toList ++ ' ' ::
          (kindKeyword kind ++ ' ' :: (quotation name.toList ++ [' ', '{']))) =
        [((), kindKeyword kind ++ ' ' :: (quotation name.toList ++ [' ', '{']))] := by
      rw [bind_of_single (keyword_append (by simp) _), someBlanks, if_pos (by decide)]
      cases kind <;> exact blanks_of_head (by decide)
    rw [if_pos rfl, List.append_assoc, List.singleton_append, optional_bind_of_single strictly]
    -- without the word in front there is no kind
    refine (congrArg₂ (· ++ ·) (bind_of_single kinds) (bind_of_nil (kindReading_strict _))).trans ?_
    rw [List.append_nil,
      rootName_printed paired fun name => ⟨_, kind, (name.map Ident.text).getD ""⟩,
      Option.map_some, Option.getD_some, text_quotation]
    rfl

end Root

end XdotViewer.Blueprint
