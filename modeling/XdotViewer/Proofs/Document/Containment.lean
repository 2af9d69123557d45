import XdotViewer.Document
import XdotViewer.Proofs.Document.Braces
import XdotViewer.Proofs.Scene.WellFormed
import Mathlib.Data.List.Chain

/-! # Containment while a document is read

However the statements of a document run, the scene stays well-formed, and each open graph is the
one around the graph that was opened next. Statements add to the scene and store attributes; what
is there keeps its name and its place.
-/

namespace XdotViewer
namespace Assembly

variable {palettes : Palettes} {assembly next : Assembly} {strict : Bool} {kind : GraphKind}

/-- The open graphs lead from the innermost to the root, each to the graph around it. -/
structure Sound (assembly : Assembly) (strict : Bool) (kind : GraphKind) : Prop where
  wellFormed : assembly.scene.WellFormed strict kind
  linked : assembly.openGraphs.IsChain fun inner outer =>
    assembly.scene.container? (.graph inner) = some outer
  rooted : ∀ id, assembly.openGraphs.getLast? = some id → id = Scene.root

section Attributes

/-- Attributes do not change what the scene consists of. -/
theorem outline_setAttr (slot : AttrSlot) (attr : String × String) :
    (setAttr palettes slot assembly attr).scene.outline = assembly.scene.outline := by
  unfold setAttr
  simp only
  split
  · exact Scene.outline_insertDrawAttr _ _ _ _
  · split
    · exact Scene.outline_insertAttr _ _ _ _
    · exact Scene.outline_insertAttr _ _ _ _

private theorem outline_setAttrs (slot : AttrSlot) (attrs : List (String × String)) :
    (attrs.foldl (setAttr palettes slot) assembly).scene.outline = assembly.scene.outline := by
  induction attrs generalizing assembly with
  | nil => rfl
  | cons attr rest ih => exact ih.trans (outline_setAttr slot attr)

private theorem outline_applyList? (slot : AttrSlot) (list : Option (List Char)) :
    (assembly.applyList? palettes slot list).scene.outline = assembly.scene.outline := by
  cases list with
  | none => rfl
  | some list =>
    unfold applyList? applyList
    simp only
    split
    · exact outline_setAttrs slot _
    · exact outline_setAttrs slot _

end Attributes

section Steps

/-- At the opening of the root the assembly is sound. -/
theorem sound_start (root : RootStatement) (diagnostics : List Diagnostic) :
    (start root diagnostics).Sound root.strict root.kind where
  wellFormed := (Scene.wellFormed_new root.name root.strict root.kind).of_outline
    (Scene.outline_insertAttr _ _ _ _)
  linked := .singleton _
  rooted _ last := (Option.some.inj last).symm

/-- The innermost open graph is there: it is the root, or there is a graph around it. -/
theorem Sound.traits_of_open (sound : assembly.Sound strict kind) {container : GraphId}
    {rest : List GraphId} (opened : assembly.openGraphs = container :: rest) :
    assembly.scene.traits? container = some (strict, kind) := by
  have linked := sound.linked
  have rooted := sound.rooted
  rw [opened] at linked rooted
  cases rest with
  | nil =>
    rw [rooted container rfl]
    exact sound.wellFormed.root.1
  | cons outer rest =>
    obtain ⟨g, found, -⟩ := Option.bind_eq_some_iff.mp (List.isChain_cons_cons.mp linked).1
    have there : assembly.scene.traits? container = some (g.strict, g.kind) := by
      rw [Scene.traits?, found, Option.map_some]
    rw [there, sound.wellFormed.uniform container _ there]

/-- A scene that grows inside the open graphs leaves them linked. -/
theorem Sound.of_extends (sound : assembly.Sound strict kind)
    (valid : next.scene.WellFormed strict kind) (kept : assembly.scene.Extends next.scene)
    (same : next.openGraphs = assembly.openGraphs) : next.Sound strict kind where
  wellFormed := valid
  linked := same ▸ sound.linked.imp fun _ _ inside => kept.container_eq inside
  rooted := same ▸ sound.rooted

private theorem Sound.close (sound : assembly.Sound strict kind) :
    ({ assembly with openGraphs := assembly.openGraphs.tail } : Assembly).Sound strict kind where
  wellFormed := sound.wellFormed
  linked := sound.linked.tail
  rooted id last := by
    apply sound.rooted id
    cases opened : assembly.openGraphs with
    | nil => simp [opened] at last
    | cons inner rest =>
      rw [opened, List.tail_cons] at last
      rw [List.getLast?_cons, last, Option.getD_some]

private theorem Sound.subgraph (sound : assembly.Sound strict kind) {container : GraphId}
    {rest : List GraphId} (opened : assembly.openGraphs = container :: rest) (name : String) :
    (assembly.perform palettes container (.subgraph name)).Sound strict kind ∧
      assembly.scene.Extends (assembly.perform palettes container (.subgraph name)).scene := by
  have known := sound.traits_of_open opened
  have kept := Scene.extends_addGraph known name
  refine ⟨⟨sound.wellFormed.addGraph known name, ?_, ?_⟩, kept⟩
  · have linked : assembly.openGraphs.IsChain fun inner outer =>
        (assembly.scene.addGraph container name).1.container? (.graph inner) = some outer :=
      sound.linked.imp fun _ _ inside => kept.container_eq inside
    change List.IsChain _ ((assembly.scene.addGraph container name).2 :: assembly.openGraphs)
    rw [opened] at linked ⊢
    exact .cons_cons (((Scene.adds_addGraph known name).around _).trans (if_pos rfl)) linked
  · intro id last
    apply sound.rooted id
    change (_ :: assembly.openGraphs).getLast? = some id at last
    rw [opened] at last ⊢
    exact last

/-- An assembly stays sound when an attribute is set, and its scene only grows. -/
theorem Sound.setAttr (sound : assembly.Sound strict kind) (slot : AttrSlot)
    (attr : String × String) :
    (setAttr palettes slot assembly attr).Sound strict kind ∧
      assembly.scene.Extends (setAttr palettes slot assembly attr).scene := by
  have same : (Assembly.setAttr palettes slot assembly attr).scene.outline =
      assembly.scene.outline := outline_setAttr slot attr
  have kept := Scene.Extends.of_outline same
  exact ⟨sound.of_extends (sound.wellFormed.of_outline same) kept (openGraphs_setAttr _ _), kept⟩

/-- A list of attributes comes after the scene has grown. -/
theorem Sound.applyList? (sound : assembly.Sound strict kind) {scene : Scene}
    (valid : scene.WellFormed strict kind) (kept : assembly.scene.Extends scene) (slot : AttrSlot)
    (list : Option (List Char)) :
    (({ assembly with scene } : Assembly).applyList? palettes slot list).Sound strict kind ∧
      assembly.scene.Extends
        (({ assembly with scene } : Assembly).applyList? palettes slot list).scene := by
  have same : (({ assembly with scene } : Assembly).applyList? palettes slot list).scene.outline =
      scene.outline := outline_applyList? slot list
  have whole := kept.trans (.of_outline same)
  exact ⟨sound.of_extends (valid.of_outline same) whole (openGraphs_applyList? slot list), whole⟩

/-- A statement inside an open graph adds to it and leaves everything else in place. -/
theorem Sound.perform (sound : assembly.Sound strict kind) {container : GraphId}
    {rest : List GraphId} (opened : assembly.openGraphs = container :: rest)
    (statement : Statement) :
    (assembly.perform palettes container statement).Sound strict kind ∧
      assembly.scene.Extends (assembly.perform palettes container statement).scene := by
  have known := sound.traits_of_open opened
  cases statement with
  | close => exact ⟨sound.close, .refl _⟩
  | subgraph name => exact sound.subgraph opened name
  | edge tail head list =>
    -- The second end may be the first one again; what was found for the first stays.
    obtain ⟨withTail, first, start⟩ := sound.wellFormed.ensureNode known tail
    obtain ⟨withHead, second, target⟩ := withTail.ensureNode (first.traits _ _ known) head
    have still := second.traits _ _ (first.traits _ _ known)
    have joined := withHead.addEdge still ⟨_, second.name _ _ start⟩ ⟨_, target⟩
    have kept := (first.trans second).trans (Scene.extends_addEdge still tail head)
    exact sound.applyList? joined kept _ list
  | attributes subject list =>
    cases subject with
    | graph => exact sound.applyList? sound.wellFormed (.refl _) _ list
    | nodeDefaults => exact sound.applyList? sound.wellFormed (.refl _) _ list
    | edgeDefaults => exact sound.applyList? sound.wellFormed (.refl _) _ list
    | node name =>
      obtain ⟨valid, kept, -⟩ := sound.wellFormed.ensureNode known name
      exact sound.applyList? valid kept _ list
  | assign name value => exact sound.setAttr _ (name, value)

/-- An assembly stays sound with every statement, whatever that is, and its scene only grows. -/
theorem Sound.step (sound : assembly.Sound strict kind) (text : List Char) :
    (step palettes assembly text).Sound strict kind ∧
      assembly.scene.Extends (step palettes assembly text).scene := by
  unfold Assembly.step
  split
  · exact ⟨sound, .refl _⟩
  · rename_i container rest opened
    split
    · exact sound.perform opened _
    · exact ⟨⟨sound.wellFormed, sound.linked, sound.rooted⟩, .refl _⟩

/-- An assembly stays sound over all statements, and its scene only grows. -/
theorem Sound.run (sound : assembly.Sound strict kind) (texts : List (List Char)) :
    (assembly.run palettes texts).Sound strict kind ∧
      assembly.scene.Extends (assembly.run palettes texts).scene := by
  induction texts generalizing assembly with
  | nil => exact ⟨sound, .refl _⟩
  | cons text rest ih =>
    obtain ⟨here, kept⟩ := @Sound.step palettes assembly strict kind sound text
    obtain ⟨later, remaining⟩ := ih here
    exact ⟨later, kept.trans remaining⟩

end Steps

end Assembly

namespace Document

/-- The scene of a document that has been read is well-formed. -/
theorem exists_wellFormed_of_read {palettes : Palettes} {text : String} {document : Document}
    (read : Document.read palettes text = .ok document) :
    ∃ strict kind, document.scene.WellFormed strict kind := by
  unfold Document.read at read
  split at read
  · cases read
  · rename_i diagnostics root statements found
    cases read
    have started := Assembly.sound_start root diagnostics
    have sound : ((Assembly.start root diagnostics).run palettes statements).Sound _ _ :=
      (started.run statements).1
    exact ⟨root.strict, root.kind, sound.wellFormed⟩

/-- At every moment of reading, the scene is well-formed and the open graphs lead to its root;
whatever statements follow, they keep what is there. The document is read, and its scene is
well-formed too. -/
theorem wellFormed_read (palettes : Palettes) {text : String} {diagnostics : List Diagnostic}
    {root : RootStatement} {statements : List (List Char)}
    (found : findRoot? (statementTexts text.toList) = some (diagnostics, root, statements)) :
    let after := (Assembly.start root diagnostics).run palettes
    (∀ front middle back, statements = front ++ middle ++ back →
      (after front).Sound root.strict root.kind ∧
        (after front).scene.Extends (after (front ++ middle)).scene) ∧
      ∃ document, read palettes text = .ok document ∧
        document.scene = (after statements).scene ∧
        document.scene.WellFormed root.strict root.kind := by
  have started := Assembly.sound_start root diagnostics
  intro after
  constructor
  · rintro front middle back -
    have sound : (after front).Sound root.strict root.kind := (started.run front).1
    refine ⟨sound, ?_⟩
    change Scene.Extends _ (Assembly.run palettes _ _).scene
    rw [Assembly.run_append]
    exact (sound.run middle).2
  · refine ⟨finish (after statements), ?_, rfl, (started.run statements).1.wellFormed⟩
    rw [read, found]

/-- An edge in the root and a node in a subgraph, in the middle of reading and at the end. -/
theorem wellFormed_read_strictGroups :
    let text := "strict graph G \x7b a -- b; subgraph c \x7b b; d \x7d e \x7d"
    let front := ["a -- b".toList, "subgraph c \x7b".toList]
    let back := ["b".toList, "d".toList, ['}'], "e".toList, ['}']]
    findRoot? (statementTexts text.toList) =
        some ([], ⟨true, .undirected, "G"⟩, front ++ back) ∧
      ((Assembly.start ⟨true, .undirected, "G"⟩ []).run .minimal front).Sound true .undirected ∧
      ∃ document, read .minimal text = .ok document ∧
        document.scene.WellFormed true .undirected := by
  intro text front back
  have found : findRoot? (statementTexts text.toList) =
      some ([], ⟨true, .undirected, "G"⟩, front ++ back) := by decide +kernel
  obtain ⟨during, document, done, -, valid⟩ := wellFormed_read .minimal found
  exact ⟨found, (during front back [] (List.append_nil _).symm).1, document, done, valid⟩

end Document
end XdotViewer
