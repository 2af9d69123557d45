import XdotViewer.Proofs.Document.RootPart

/-! # Bodies of subgraphs

Inside the body of a subgraph a statement is at least two graphs deep, so it is never in the root
graph, however the body nests and whatever cannot be read in it. Documents that differ in the bodies
of subgraphs only agree in everything that the root graph decides.
-/

namespace XdotViewer

/-- What may stand in the body of a subgraph: the braces match, and each opener is read. -/
structure IsBody (texts : List (List Char)) : Prop where
  balanced : Balanced texts
  read : ∀ text ∈ texts, opensBlock text → Statement.read? text ≠ none

/-- Statements that are the same except for the bodies of some subgraphs. -/
inductive SameOutside : List (List Char) → List (List Char) → Prop
  | nil : SameOutside [] []
  | statement (text : List Char) {first second : List (List Char)} :
    SameOutside first second → SameOutside (text :: first) (text :: second)
  | body {opener : List Char} {inner inner' first second : List (List Char)} :
    opensBlock opener → Statement.read? opener ≠ none → IsBody inner → IsBody inner' →
    SameOutside first second →
    SameOutside (opener :: inner ++ ['}'] :: first) (opener :: inner' ++ ['}'] :: second)

/-- How many graphs are open after a statement, if `depth` are open before it. -/
def Statement.depthAfter (depth : Nat) : Statement → Nat
  | .close => depth - 1
  | .subgraph _ => depth + 1
  | _ => depth

namespace Assembly

variable {palettes : Palettes} {a b : Assembly} {strict : Bool} {kind : GraphKind}

private theorem length_openGraphs_perform (container : GraphId) (statement : Statement) :
    (a.perform palettes container statement).openGraphs.length =
      statement.depthAfter a.openGraphs.length := by
  cases statement with
  | close => exact List.length_tail
  | subgraph name => rfl
  | edge tail head list =>
    have content : (Statement.edge tail head list).IsContent := trivial
    rw [openGraphs_perform content]
    rfl
  | attributes subject list =>
    have content : (Statement.attributes subject list).IsContent := trivial
    rw [openGraphs_perform content]
    rfl
  | assign name value =>
    have content : (Statement.assign name value).IsContent := trivial
    rw [openGraphs_perform content]
    rfl

/-- Of the open graphs only the outermost is the root. -/
theorem Sound.eq_root_iff (sound : a.Sound strict kind) {container : GraphId}
    {rest : List GraphId} (opened : a.openGraphs = container :: rest) :
    container = Scene.root ↔ rest = [] := by
  have linked := sound.linked
  have rooted := sound.rooted
  rw [opened] at linked rooted
  cases rest with
  | nil => exact iff_of_true (rooted container rfl) rfl
  | cons outer rest =>
    have inside := (List.isChain_cons_cons.mp linked).1
    refine iff_of_false ?_ nofun
    rintro rfl
    rw [sound.wellFormed.root.2] at inside
    cases inside

section Runs

/-- Two documents that are equally deep inside their root graphs come to a statement either both
directly inside or both inside subgraphs. -/
theorem step_related (palettes : Palettes) (related : Assembly → Assembly → Prop)
    (here : related a b) (left : a.Sound strict kind) (right : b.Sound strict kind)
    (depth : a.openGraphs.length = b.openGraphs.length)
    (reported : ∀ reports, related (a.report reports) (b.report reports))
    (outermost : ∀ statement, related (a.perform palettes Scene.root statement)
      (b.perform palettes Scene.root statement))
    (nested : ∀ container container' statement, container ≠ Scene.root →
      container' ≠ Scene.root → related (a.perform palettes container statement)
        (b.perform palettes container' statement)) (text : List Char) :
    related (step palettes a text) (step palettes b text) ∧
      (step palettes a text).openGraphs.length = (step palettes b text).openGraphs.length := by
  unfold Assembly.step
  cases openA : a.openGraphs with
  | nil =>
    have openB : b.openGraphs = [] := List.eq_nil_of_length_eq_zero (by simp [← depth, openA])
    rw [openB]
    exact ⟨here, depth⟩
  | cons container rest =>
    obtain ⟨container', rest', openB⟩ :=
      List.exists_cons_of_length_pos (l := b.openGraphs) (by simp [← depth, openA])
    rw [openB]
    cases Statement.read? text with
    | none => exact ⟨reported _, depth⟩
    | some statement =>
      refine ⟨?_, ?_⟩
      · have ends : rest = [] ↔ rest' = [] := by
          rw [openA, openB, List.length_cons, List.length_cons, Nat.succ_inj] at depth
          rw [← List.length_eq_zero_iff, depth, List.length_eq_zero_iff]
        by_cases last : rest = []
        · rw [(left.eq_root_iff openA).mpr last, (right.eq_root_iff openB).mpr (ends.mp last)]
          exact outermost statement
        · exact nested _ _ _ (mt (left.eq_root_iff openA).mp last)
            (mt (right.eq_root_iff openB).mp (mt ends.mpr last))
      · simp only [length_openGraphs_perform, depth]

/-- A statement has the same effect on root graphs that are the same, as far from the root as it
may stand. -/
theorem SameRoot.step (palettes : Palettes) (same : a.SameRoot b) (left : a.Sound strict kind)
    (right : b.Sound strict kind) (depth : a.openGraphs.length = b.openGraphs.length)
    (text : List Char) :
    (step palettes a text).SameRoot (step palettes b text) ∧
      (step palettes a text).openGraphs.length = (step palettes b text).openGraphs.length :=
  step_related palettes SameRoot same left right depth (fun _ => ⟨same.metadata, same.stored⟩)
    (same.perform left right)
    (fun _ _ statement inside inside' => ((sameRoot_perform left inside statement).symm.trans
      same).trans (sameRoot_perform right inside' statement)) text

/-- As long as a subgraph is open at each of them, statements leave the root graph alone. -/
theorem sameRoot_run_nested {texts : List (List Char)} (sound : a.Sound strict kind)
    (nested : ∀ front text, front ++ [text] <+: texts →
      2 ≤ (a.run palettes front).openGraphs.length) :
    a.SameRoot (a.run palettes texts) := by
  induction texts generalizing a with
  | nil => exact .refl a
  | cons text rest ih =>
    have here : a.SameRoot (step palettes a text) := by
      have deep : 2 ≤ a.openGraphs.length := nested [] text (List.prefix_append [text] rest)
      unfold Assembly.step
      split
      · exact .refl a
      · rename_i container outer opened
        split
        · refine sameRoot_perform sound ?_ _
          rw [ne_eq, sound.eq_root_iff opened]
          rintro rfl
          simp [opened] at deep
        · exact ⟨rfl, rfl⟩
    exact here.trans (ih (sound.step text).1 fun front next inside =>
      nested (text :: front) next ((List.prefix_cons_inj text).mpr inside))

private theorem sameRoot_step_opener (sound : a.Sound strict kind) {opener : List Char}
    (opens : opensBlock opener) (read : Statement.read? opener ≠ none) :
    a.SameRoot (step palettes a opener) := by
  obtain ⟨statement, found⟩ := Option.ne_none_iff_exists'.mp read
  obtain ⟨name, rfl⟩ := Statement.eq_subgraph_of_read? opens found
  unfold Assembly.step
  split
  · exact .refl a
  · rw [found]
    exact sameRoot_subgraph sound name

/-- A subgraph with its body leaves the root graph alone, and the same graphs open. -/
theorem sameRoot_run_body (palettes : Palettes) (sound : a.Sound strict kind)
    {opener : List Char} {inner : List (List Char)} (opens : opensBlock opener)
    (read : Statement.read? opener ≠ none) (body : IsBody inner) :
    a.SameRoot (a.run palettes (opener :: (inner ++ [['}']]))) ∧
      (a.run palettes (opener :: (inner ++ [['}']]))).openGraphs = a.openGraphs := by
  by_cases closed : a.openGraphs = []
  · rw [run_of_closed closed]
    exact ⟨.refl a, rfl⟩
  obtain ⟨id, entered⟩ := openGraphs_step_opener palettes closed opens read
  rw [run_cons]
  constructor
  · -- The subgraph is open up to and including its closing brace.
    refine (sameRoot_step_opener sound opens read).trans
      (sameRoot_run_nested (sound.step opener).1 fun front text first => ?_)
    have inside : front <+: inner := by
      rcases List.prefix_concat_iff.mp first with whole | part
      · exact (List.append_inj' whole rfl).1 ▸ List.prefix_rfl
      · exact (List.prefix_append front [text]).trans part
    have around : (step palettes a opener).openGraphs <:+
        ((step palettes a opener).run palettes front).openGraphs :=
      suffix_run body.balanced body.read inside _
    have outer := List.length_pos_of_ne_nil closed
    have more := around.length_le
    rw [entered, List.length_cons] at more
    omega
  · rw [run_append]
    change (step palettes _ ['}']).openGraphs = _
    rw [openGraphs_step_closing, openGraphs_run_balanced body.balanced,
      unreadOpeners_eq_zero.mpr body.read, entered]
    rfl

/-- Whatever the bodies of subgraphs hold, root graphs that are the same stay the same. -/
theorem SameRoot.run {first second : List (List Char)} (outside : SameOutside first second)
    (same : a.SameRoot b) (left : a.Sound strict kind) (right : b.Sound strict kind)
    (depth : a.openGraphs.length = b.openGraphs.length) :
    (a.run palettes first).SameRoot (b.run palettes second) := by
  induction outside generalizing a b with
  | nil => exact same
  | statement text _ ih =>
    obtain ⟨here, level⟩ := same.step palettes left right depth text
    exact ih here (left.step text).1 (right.step text).1 level
  | @body opener inner inner' first second opens read filled filled' _ ih =>
    have split (texts rest : List (List Char)) :
        opener :: texts ++ ['}'] :: rest = opener :: (texts ++ [['}']]) ++ rest := by simp
    rw [split, split, run_append, run_append]
    obtain ⟨kept, level⟩ := sameRoot_run_body palettes left opens read filled
    obtain ⟨kept', level'⟩ := sameRoot_run_body palettes right opens read filled'
    refine ih ((kept.symm.trans same).trans kept') (left.run _).1 (right.run _).1 ?_
    rw [level, level', depth]

end Runs
end Assembly

namespace Document

/-- Documents that differ only in the bodies of subgraphs, and in what stands before the root
graph, have the same metadata, and their root graphs have the same attributes, defaults and draw
instructions. -/
theorem root_eq_of_sameOutside (palettes : Palettes) {first second : String}
    {earlier later : List Diagnostic} {root : RootStatement} {body body' : List (List Char)}
    (found : findRoot? (statementTexts first.toList) = some (earlier, root, body))
    (found' : findRoot? (statementTexts second.toList) = some (later, root, body'))
    (outside : SameOutside body body') :
    ∃ document document' g g',
      read palettes first = .ok document ∧ read palettes second = .ok document' ∧
      document.metadata = document'.metadata ∧
      document.scene.graph? Scene.root = some g ∧ document'.scene.graph? Scene.root = some g' ∧
      g.entity.attrs = g'.entity.attrs ∧ g.nodeDefaults = g'.nodeDefaults ∧
      g.edgeDefaults = g'.edgeDefaults ∧ g.entity.drawAttrs = g'.entity.drawAttrs := by
  have started := Assembly.sound_start root earlier
  have started' := Assembly.sound_start root later
  have alike : (Assembly.start root earlier).SameRoot (Assembly.start root later) := ⟨rfl, rfl⟩
  have same : ((Assembly.start root earlier).run palettes body).SameRoot
      ((Assembly.start root later).run palettes body') :=
    alike.run outside started started' rfl
  have left : ((Assembly.start root earlier).run palettes body).Sound root.strict root.kind :=
    (started.run body).1
  have right : ((Assembly.start root later).run palettes body').Sound root.strict root.kind :=
    (started'.run body').1
  obtain ⟨g, there, -⟩ := Option.map_eq_some_iff.mp left.wellFormed.root.1
  obtain ⟨g', there', -⟩ := Option.map_eq_some_iff.mp right.wellFormed.root.1
  have stored := same.stored
  rw [Scene.stored?, Scene.stored?, there, there', Option.map_some, Option.map_some,
    Option.some_inj] at stored
  refine ⟨_, _, g, g', by rw [read, found], by rw [read, found'], same.metadata, there, there', ?_⟩
  exact ⟨congrArg GraphAttrs.own stored, congrArg GraphAttrs.nodeDefaults stored,
    congrArg GraphAttrs.edgeDefaults stored, congrArg GraphAttrs.drawAttrs stored⟩

/-- One body has a box, a color, draw instructions, a group and an edge without a head; the other
has only a node. -/
theorem root_eq_of_sameOutside_group :
    let first := "digraph G \x7b dpi=96; subgraph a \x7b bb=\"0,0,5,5\"; node [_draw_=\"x\"]; " ++
      "\x7b n -> \x7d bgcolor=red \x7d size=\"2,2\" \x7d"
    let second := "digraph G \x7b dpi=96; subgraph a \x7b n \x7d size=\"2,2\" \x7d"
    ∃ document document' g g',
      read .minimal first = .ok document ∧ read .minimal second = .ok document' ∧
      document.metadata = document'.metadata ∧
      document.scene.graph? Scene.root = some g ∧ document'.scene.graph? Scene.root = some g' ∧
      g.entity.attrs = g'.entity.attrs ∧ g.nodeDefaults = g'.nodeDefaults ∧
      g.edgeDefaults = g'.edgeDefaults ∧ g.entity.drawAttrs = g'.entity.drawAttrs := by
  intro first second
  have foundFirst : findRoot? (statementTexts first.toList) = some ([], ⟨false, .directed, "G"⟩,
      ["dpi=96".toList, "subgraph a \x7b".toList, "bb=\"0,0,5,5\"".toList,
        "node [_draw_=\"x\"]".toList, "\x7b".toList, "n ->".toList, ['}'], "bgcolor=red".toList,
        ['}'], "size=\"2,2\"".toList, ['}']]) := by decide +kernel
  have foundSecond : findRoot? (statementTexts second.toList) = some ([], ⟨false, .directed, "G"⟩,
      ["dpi=96".toList, "subgraph a \x7b".toList, "n".toList, ['}'], "size=\"2,2\"".toList,
        ['}']]) := by decide +kernel
  have name : IsBody ["n".toList] := ⟨.plain (by decide) (by decide) .nil, by decide +kernel⟩
  have filled : IsBody ["bb=\"0,0,5,5\"".toList, "node [_draw_=\"x\"]".toList, "\x7b".toList,
      "n ->".toList, ['}'], "bgcolor=red".toList] := by
    have group : Balanced (["\x7b".toList, "n ->".toList] ++ ['}'] :: ["bgcolor=red".toList]) :=
      .block (by decide) (.plain (by decide) (by decide) .nil)
        (.plain (by decide) (by decide) .nil)
    exact ⟨.plain (by decide) (by decide) (.plain (by decide) (by decide) group),
      by decide +kernel⟩
  refine root_eq_of_sameOutside .minimal foundFirst foundSecond (.statement _ ?_)
  exact .body (by decide) (by decide +kernel) filled name (.statement _ (.statement _ .nil))

end Document
end XdotViewer
