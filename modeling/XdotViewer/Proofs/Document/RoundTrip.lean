import XdotViewer.Proofs.Document.Layout

/-! # Reading printed documents

A document that is printed from a blueprint is read as the scene that the blueprint builds.
`read_print` is the statement for whole documents; `run_print` says the same of one item inside an
open graph, and is where the nesting is followed.
-/

namespace XdotViewer

/-- A report on the value of an attribute, none on how a document is written. -/
def Diagnostic.AboutValue (d : Diagnostic) : Prop :=
  d.kind ∈ [.invalidAttribute, .unsupportedVersion, .unknownColor, .unknownColorScheme]

namespace Assembly

/-- A change that leads to a scene, closes or opens no graph and reports on values at most. -/
structure Extends (before after : Assembly) (scene : Scene) : Prop where
  scene_eq : after.scene = scene
  openGraphs_eq : after.openGraphs = before.openGraphs
  reports : ∃ reports, after.diagnostics = before.diagnostics ++ reports ∧
    ∀ d ∈ reports, d.AboutValue

variable {before middle after : Assembly} {scene : Scene}

private theorem Extends.refl (assembly : Assembly) : assembly.Extends assembly assembly.scene :=
  ⟨rfl, rfl, [], (List.append_nil _).symm, nofun⟩

private theorem Extends.trans (left : before.Extends middle middle.scene)
    (right : middle.Extends after scene) : before.Extends after scene := by
  obtain ⟨first, opened, values⟩ := left.reports
  obtain ⟨second, more, others⟩ := right.reports
  refine ⟨right.scene_eq, right.openGraphs_eq.trans left.openGraphs_eq, first ++ second, ?_, ?_⟩
  · rw [more, opened, List.append_assoc]
  · intro d member
    exact (List.mem_append.mp member).elim (values d) (others d)

private theorem aboutValue_resolve (palettes : Palettes) (literal : String)
    (scheme : Option String) :
    ∀ d ∈ (palettes.resolve literal scheme).2, d.AboutValue := by
  intro d member
  unfold Palettes.resolve at member
  split at member
  · cases member
  · simp only at member
    split at member
    · cases member
    · split at member
      · obtain rfl := List.mem_singleton.mp member
        simp [Diagnostic.AboutValue, Diagnostic.unknownColor]
      · rcases List.mem_cons.mp member with rfl | member
        · simp [Diagnostic.AboutValue, Diagnostic.unknownScheme]
        · obtain rfl := List.mem_singleton.mp member
          simp [Diagnostic.AboutValue, Diagnostic.unknownColor]

private theorem aboutValue_update (metadata : Metadata) (palettes : Palettes)
    (scheme : Option String)
    (name value : String) : ∀ d ∈ (metadata.update palettes scheme name value).2, d.AboutValue := by
  have invalid : ∀ d ∈ [Diagnostic.invalidAttribute name value], d.AboutValue := by
    intro d member
    obtain rfl := List.mem_singleton.mp member
    simp [Diagnostic.AboutValue, Diagnostic.invalidAttribute]
  intro d member
  unfold Metadata.update at member
  simp only at member
  split at member
  · split at member
    · cases member
    · exact invalid d member
  · exact aboutValue_resolve palettes value scheme d member
  · split at member
    · cases member
    · exact invalid d member
  · split at member
    · cases member
    · exact invalid d member
  · split at member
    · obtain rfl := List.mem_singleton.mp member
      simp [Diagnostic.AboutValue, Diagnostic.newerVersion]
    · cases member
  · cases member

private theorem extends_updateMetadata (palettes : Palettes) (name value : String)
    (assembly : Assembly) :
    assembly.Extends (assembly.updateMetadata palettes name value) assembly.scene :=
  ⟨rfl, rfl, _, rfl, aboutValue_update _ palettes _ name value⟩

/-- An attribute changes the scene at its slot, and the metadata besides. -/
theorem extends_setAttr (palettes : Palettes) (slot : AttrSlot) (assembly : Assembly)
    (attr : String × String) :
    assembly.Extends (setAttr palettes slot assembly attr) (assembly.scene.store slot attr) := by
  obtain ⟨name, value⟩ := attr
  unfold setAttr Scene.store
  simp only
  split
  · exact ⟨rfl, rfl, [], (List.append_nil _).symm, nofun⟩
  · split
    · obtain ⟨same, opened, reports⟩ := extends_updateMetadata palettes name value assembly
      exact ⟨congrArg (fun scene => scene.insertAttr slot name value) same, opened, reports⟩
    · exact ⟨rfl, rfl, [], (List.append_nil _).symm, nofun⟩

private theorem extends_setAttrs (palettes : Palettes) (slot : AttrSlot) (attrs : AttrList)
    (assembly : Assembly) :
    assembly.Extends (attrs.foldl (setAttr palettes slot) assembly)
      (assembly.scene.storeAll slot attrs) := by
  induction attrs generalizing assembly with
  | nil => exact .refl assembly
  | cons attr rest ih =>
    have first := extends_setAttr palettes slot assembly attr
    have others := ih (setAttr palettes slot assembly attr)
    rw [first.scene_eq] at others
    exact (first.scene_eq.symm ▸ first : assembly.Extends _ _).trans others

/-- A printed list stores its pairs one after the other. -/
theorem extends_applyList (palettes : Palettes) (slot : AttrSlot) {attrs : AttrList}
    (paired : Blueprint.PairedAttrs attrs) (assembly : Assembly) :
    assembly.Extends (assembly.applyList palettes slot (Blueprint.printPairs attrs))
      (assembly.scene.storeAll slot attrs) := by
  rw [applyList, Blueprint.pairs_printPairs paired]
  exact extends_setAttrs palettes slot attrs assembly

private theorem step_of_read? {palettes : Palettes} {assembly : Assembly} {container : GraphId}
    {outer : List GraphId} {text : List Char} {statement : Statement}
    (opened : assembly.openGraphs = container :: outer)
    (read : Statement.read? text = some statement) :
    step palettes assembly text = assembly.perform palettes container statement := by
  simp only [step, opened, read]

end Assembly

namespace Blueprint

open Assembly Ident

variable (palettes : Palettes) {assembly : Assembly} {container : GraphId}
  {outer : List GraphId} {attrs : AttrList}

section Statements

private theorem step_node {name : String} (opened : assembly.openGraphs = container :: outer)
    (named : Paired name.toList) (paired : PairedAttrs attrs) :
    assembly.Extends (step palettes assembly (quoteName name ++ printList attrs))
      ((Item.node name attrs).build container assembly.scene) := by
  have read : Statement.read? (quoteName name ++ printList attrs) =
      some (.attributes (.node name) (some (printPairs attrs))) :=
    read?_node named (not_mem_printPairs paired)
  rw [step_of_read? opened read]
  have stored := extends_applyList palettes
    (.own (.node (assembly.scene.ensureNode container name).2)) paired
    { assembly with scene := (assembly.scene.ensureNode container name).1 }
  exact ⟨stored.scene_eq, stored.openGraphs_eq, stored.reports⟩

private theorem step_edge {tail head : String} (kind : GraphKind)
    (opened : assembly.openGraphs = container :: outer) (left : Paired tail.toList)
    (right : Paired head.toList) (paired : PairedAttrs attrs) :
    assembly.Extends
      (step palettes assembly (quoteName tail ++ ' ' :: kind.edgeOp.toList ++
        ' ' :: quoteName head ++ printList attrs))
      ((Item.edge tail head attrs).build container assembly.scene) := by
  have shape : quoteName tail ++ ' ' :: kind.edgeOp.toList ++ ' ' :: quoteName head ++
      printList attrs = quoteName tail ++ ' ' :: (kind.edgeOp.toList ++ ' ' ::
        (quoteName head ++ printList attrs)) := by simp
  have read : Statement.read? (quoteName tail ++ ' ' :: (kind.edgeOp.toList ++ ' ' ::
      (quoteName head ++ printList attrs))) = some (.edge tail head (some (printPairs attrs))) :=
    read?_edge kind left right (not_mem_printPairs paired)
  rw [shape, step_of_read? opened read]
  have stored := extends_applyList palettes (.own (.edge (((assembly.scene.ensureNode container
    tail).1.ensureNode container head).1.addEdge container tail head).2)) paired
    { assembly with scene := (((assembly.scene.ensureNode container tail).1.ensureNode container
      head).1.addEdge container tail head).1 }
  exact ⟨stored.scene_eq, stored.openGraphs_eq, stored.reports⟩

private theorem step_defaults (scope : Scope) (opened : assembly.openGraphs = container :: outer)
    (paired : PairedAttrs attrs) :
    assembly.Extends (step palettes assembly (scope.keyword ++ printList attrs))
      ((Item.defaults scope attrs).build container assembly.scene) := by
  have read : Statement.read? (scope.keyword ++ printList attrs) =
      some (.attributes scope.subject (some (printPairs attrs))) :=
    read?_defaults scope (not_mem_printPairs paired)
  rw [step_of_read? opened read]
  have stored := extends_applyList palettes (scope.slot container) paired assembly
  cases scope <;> exact ⟨stored.scene_eq, stored.openGraphs_eq, stored.reports⟩

private theorem step_assign {name value : String}
    (opened : assembly.openGraphs = container :: outer)
    (named : Paired name.toList) (valued : Paired value.toList) :
    assembly.Extends (step palettes assembly (printPair (name, value)))
      ((Item.assign name value).build container assembly.scene) := by
  have read : Statement.read? (printPair (name, value)) = some (.assign name value) :=
    read?_assign named valued
  rw [step_of_read? opened read]
  exact extends_setAttr palettes (.own (.graph container)) assembly (name, value)

/-- The first line of a block opens the graph that the block is about. -/
theorem step_opening {name : String} (opened : assembly.openGraphs = container :: outer)
    (named : Paired name.toList) :
    step palettes assembly ("subgraph".toList ++ ' ' :: quoteName name ++ [' ', '{']) =
      { assembly with
        scene := (assembly.scene.addGraph container name).1
        openGraphs := (assembly.scene.addGraph container name).2 :: assembly.openGraphs } := by
  have shape : "subgraph".toList ++ ' ' :: quoteName name ++ [' ', '{'] =
      "subgraph".toList ++ ' ' :: (quoteName name ++ [' ', '{']) := by simp
  have read : Statement.read? ("subgraph".toList ++ ' ' :: (quoteName name ++ [' ', '{'])) =
    some (.subgraph name) := read?_subgraph named
  rw [shape, step_of_read? opened read]
  rfl

private theorem step_closing (opened : assembly.openGraphs = container :: outer) :
    step palettes assembly ['}'] = { assembly with openGraphs := outer } := by
  rw [step_of_read? opened (show Statement.read? ['}'] = some .close from rfl), perform, opened,
    List.tail_cons]

end Statements

section Items

private theorem run_ended (assembly : Assembly) (statement : List Char) :
    assembly.run palettes ([PrintedLine.ended statement].map PrintedLine.statement) =
      step palettes assembly statement := rfl

mutual

/-- The lines of an item have on an open graph the effect of the item. -/
theorem run_print (kind : GraphKind) (item : Item) (paired : PairedStrings item.strings)
    {assembly : Assembly} {container : GraphId} {outer : List GraphId}
    (opened : assembly.openGraphs = container :: outer) :
    assembly.Extends (assembly.run palettes ((item.print kind).map PrintedLine.statement))
      (item.build container assembly.scene) := by
  match item with
  | .subgraph name items =>
    have named : Paired name.toList := paired name (by simp [Item.strings])
    have inside : PairedStrings (Item.allStrings items) :=
      fun text member => paired text (by simp [Item.strings, member])
    let entered : Assembly := { assembly with
      scene := (assembly.scene.addGraph container name).1
      openGraphs := (assembly.scene.addGraph container name).2 :: assembly.openGraphs }
    have inner := run_printAll kind items inside
      (show entered.openGraphs = _ :: assembly.openGraphs from rfl)
    have closed := step_closing palettes inner.openGraphs_eq
    rw [Item.print, List.map_append, List.map_cons, run_append]
    change assembly.Extends (step palettes ((step palettes assembly
      ("subgraph".toList ++ ' ' :: quoteName name ++ [' ', '{'])).run palettes _) ['}']) _
    rw [step_opening palettes opened named, closed]
    exact ⟨inner.scene_eq, rfl, inner.reports⟩
  | .node name attrs =>
    have named : Paired name.toList := paired name (by simp [Item.strings])
    have listed : PairedStrings (attrStrings attrs) :=
      fun text member => paired text (by simp [Item.strings, member])
    have effect := step_node palettes opened named (pairedAttrs_of_strings listed)
    rwa [Item.print, run_ended]
  | .edge tail head attrs =>
    have left : Paired tail.toList := paired tail (by simp [Item.strings])
    have right : Paired head.toList := paired head (by simp [Item.strings])
    have listed : PairedStrings (attrStrings attrs) :=
      fun text member => paired text (by simp [Item.strings, member])
    have effect := step_edge palettes kind opened left right (pairedAttrs_of_strings listed)
    rwa [Item.print, run_ended]
  | .defaults scope attrs =>
    have listed : PairedStrings (attrStrings attrs) :=
      fun text member => paired text (by simp [Item.strings, member])
    have effect := step_defaults palettes scope opened (pairedAttrs_of_strings listed)
    rwa [Item.print, run_ended]
  | .assign name value =>
    have named : Paired name.toList := paired name (by simp [Item.strings])
    have valued : Paired value.toList := paired value (by simp [Item.strings])
    have effect := step_assign palettes opened named valued
    rwa [Item.print, run_ended]

private theorem run_printAll (kind : GraphKind) (items : List Item)
    (paired : PairedStrings (Item.allStrings items)) {assembly : Assembly}
    {container : GraphId} {outer : List GraphId}
    (opened : assembly.openGraphs = container :: outer) :
    assembly.Extends
      (assembly.run palettes ((Item.printAll kind items).map PrintedLine.statement))
      (Item.buildAll container assembly.scene items) := by
  match items with
  | [] => exact .refl assembly
  | item :: rest =>
    have first := run_print kind item
      (fun text member => paired text (by simp [Item.allStrings, member])) opened
    have others := run_printAll kind rest
      (fun text member => paired text (by simp [Item.allStrings, member]))
      (first.openGraphs_eq.trans opened)
    rw [Item.printAll, List.map_append, run_append]
    rw [first.scene_eq] at others
    exact (first.scene_eq.symm ▸ first : assembly.Extends _ _).trans others

end

end Items

/-- Reading a printed document gives the scene that its blueprint builds. All that is reported is
about values of the root graph that are no sizes, colors and versions. -/
theorem read_print (blueprint : Blueprint) (quotable : blueprint.Quotable) (palettes : Palettes) :
    ∃ document, Document.read palettes blueprint.print = .ok document ∧
      document.scene = blueprint.scene ∧ ∀ d ∈ document.diagnostics, d.AboutValue := by
  have paired := paired_of_quotable quotable
  have named : Paired blueprint.name.toList := paired _ (List.mem_cons_self ..)
  let root : RootStatement := ⟨blueprint.strict, blueprint.kind, blueprint.name⟩
  let started := Assembly.start root []
  let body := (Item.printAll blueprint.kind blueprint.items).map PrintedLine.statement
  have first : RootStatement.read? (PrintedLine.opening blueprint.heading).statement =
      some root := by
    have shape : (PrintedLine.opening blueprint.heading).statement =
        (if blueprint.strict then "strict".toList ++ [' '] else []) ++
          (kindKeyword blueprint.kind ++
            ' ' :: (quotation blueprint.name.toList ++ [' ', '{'])) := by
      simp only [PrintedLine.statement, heading, quoteName, List.append_assoc, List.cons_append]
    rw [shape]
    exact rootStatement_printed blueprint.strict blueprint.kind named
  have found : Document.findRoot? (statementTexts blueprint.print.toList) =
      some ([], root, body ++ [['}']]) := by
    have split : blueprint.lines.map PrintedLine.statement =
        (PrintedLine.opening blueprint.heading).statement :: (body ++ [['}']]) := by
      simp [lines, body, PrintedLine.statement]
    rw [statementTexts_print quotable, split, Document.findRoot?, first]
  have inside := run_printAll palettes blueprint.kind blueprint.items
    (fun text member => paired text (List.mem_cons_of_mem _ member))
    (show started.openGraphs = [Scene.root] from rfl)
  have closed := step_closing palettes inside.openGraphs_eq
  have ended : started.run palettes (body ++ [['}']]) =
      { started.run palettes body with openGraphs := [] } := by
    rw [run_append]
    exact closed
  refine ⟨Document.finish { started.run palettes body with openGraphs := [] }, ?_,
    inside.scene_eq, ?_⟩
  · rw [Document.read, found]
    exact congrArg (fun assembly => Except.ok (Document.finish assembly)) ended
  · obtain ⟨reports, shape, values⟩ := inside.reports
    intro d member
    change d ∈ (started.run palettes body).diagnostics at member
    rw [shape] at member
    exact values d member

/-- Brackets, braces, arrows, keywords and backslashes inside names, and a block in a block. -/
def nestedSample : Blueprint where
  strict := true
  kind := .directed
  name := "G \\\\\"\x7b"
  items := [
    .assign "bb" "0,0,1,1",
    .defaults .nodes [("color", "red"), ("_draw_", "c 5 -black")],
    .subgraph "cluster; \x7d" [
      .node "a]" [("label", "v]; \x7d"), ("", "")],
      .edge "a]" "b->c" [],
      .subgraph "" [.node "graph" []]],
    .edge "x" "\\n" [("_ldraw_", "T")]]

/-- A blueprint with nested graphs, defaults and an edge. -/
theorem read_print_nestedSample : nestedSample.Quotable ∧
    ∃ document, Document.read .minimal nestedSample.print = .ok document ∧
      document.scene = nestedSample.scene ∧ ∀ d ∈ document.diagnostics, d.AboutValue := by
  have quotable : nestedSample.Quotable := by
    unfold Blueprint.Quotable
    decide
  exact ⟨quotable, read_print nestedSample quotable .minimal⟩

end Blueprint
end XdotViewer
