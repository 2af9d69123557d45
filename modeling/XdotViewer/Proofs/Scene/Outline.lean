import XdotViewer.Scene

/-! # The outline of a scene

A scene without its attributes: which entities there are and what they are called, the graphs around
them, the ends of edges, and what each graph lists as inside it. Storing an attribute leaves the
outline as it is.
-/

namespace XdotViewer

def Graph.outline (g : Graph) : Graph :=
  { g with entity := .named g.entity.name, nodeDefaults := ∅, edgeDefaults := ∅ }

def Node.outline (n : Node) : Node :=
  { n with entity := .named n.entity.name }

def Edge.outline (e : Edge) : Edge :=
  { e with entity := .named e.entity.name }

/-- What the graph lists: subgraphs, nodes and edges. -/
def Graph.contents (g : Graph) : List EntityRef :=
  g.subgraphs.toList.map .graph ++ g.nodes.toList.map .node ++ g.edges.toList.map .edge

namespace Scene

variable {s t u : Scene}

def outline (s : Scene) : Scene where
  graphs := s.graphs.map Graph.outline
  nodes := s.nodes.map Node.outline
  edges := s.edges.map Edge.outline
  nodeIndex := s.nodeIndex

def name? (s : Scene) (r : EntityRef) : Option String :=
  (s.entity? r).map Entity.name

/-- Strictness and kind of a graph. -/
def traits? (s : Scene) (id : GraphId) : Option (Bool × GraphKind) :=
  (s.graph? id).map fun g => (g.strict, g.kind)

/-- Tail and head of an edge. -/
def ends? (s : Scene) (id : EdgeId) : Option (String × String) :=
  (s.edge? id).map fun e => (e.tail, e.head)

/-- What a graph lists as directly inside it. -/
def contents (s : Scene) (id : GraphId) : List EntityRef :=
  ((s.graph? id).map Graph.contents).getD []

section Erasing

@[simp] theorem graph?_outline (s : Scene) (id : GraphId) :
    s.outline.graph? id = (s.graph? id).map Graph.outline :=
  Array.getElem?_map

@[simp] theorem node?_outline (s : Scene) (id : NodeId) :
    s.outline.node? id = (s.node? id).map Node.outline :=
  Array.getElem?_map

@[simp] theorem edge?_outline (s : Scene) (id : EdgeId) :
    s.outline.edge? id = (s.edge? id).map Edge.outline :=
  Array.getElem?_map

@[simp] theorem name?_outline (s : Scene) (r : EntityRef) : s.outline.name? r = s.name? r := by
  cases r <;>
    simp [name?, entity?, Function.comp_def, Graph.outline, Node.outline, Edge.outline,
      Entity.named]

@[simp] theorem container?_outline (s : Scene) (r : EntityRef) :
    s.outline.container? r = s.container? r := by
  cases r with
  | graph id => cases found : s.graph? id <;> simp [container?, found, Graph.outline]
  | node id => simp [container?, Function.comp_def, Node.outline]
  | edge id => simp [container?, Function.comp_def, Edge.outline]

@[simp] theorem traits?_outline (s : Scene) (id : GraphId) :
    s.outline.traits? id = s.traits? id := by
  simp [traits?, Function.comp_def, Graph.outline]

@[simp] theorem ends?_outline (s : Scene) (id : EdgeId) : s.outline.ends? id = s.ends? id := by
  simp [ends?, Function.comp_def, Edge.outline]

@[simp] theorem contents_outline (s : Scene) (id : GraphId) :
    s.outline.contents id = s.contents id := by
  rw [contents, graph?_outline, Option.map_map]
  rfl

@[simp] theorem findNode_outline (s : Scene) (name : String) :
    s.outline.findNode name = s.findNode name := rfl

end Erasing

section Attributes

private theorem map_modify_of_same {α β : Type} (xs : Array α) (i : Nat) {f : α → α}
    {project : α → β}
    (same : ∀ x, project (f x) = project x) : (xs.modify i f).map project = xs.map project := by
  apply Array.ext
  · simp
  · intro j inside _
    rw [Array.getElem_map, Array.getElem_map, Array.getElem_modify]
    split
    · exact same _
    · rfl

private theorem outline_modifyGraph (s : Scene) (id : GraphId) {f : Graph → Graph}
    (same : ∀ g, (f g).outline = g.outline) : (s.modifyGraph id f).outline = s.outline := by
  simp only [outline, modifyGraph, map_modify_of_same _ _ same]

/-- What happens to an entity apart from its name leaves the outline as it is. -/
theorem outline_modifyEntity (s : Scene) (r : EntityRef) {f : Entity → Entity}
    (same : ∀ entity, (f entity).name = entity.name) :
    (s.modifyEntity r f).outline = s.outline := by
  cases r with
  | graph id =>
    apply outline_modifyGraph
    intro g
    simp [Graph.outline, same]
  | node id =>
    have kept (n : Node) : Node.outline { n with entity := f n.entity } = n.outline := by
      simp [Node.outline, same]
    simp only [outline, modifyEntity, map_modify_of_same _ _ kept]
  | edge id =>
    have kept (e : Edge) : Edge.outline { e with entity := f e.entity } = e.outline := by
      simp [Edge.outline, same]
    simp only [outline, modifyEntity, map_modify_of_same _ _ kept]

/-- Attributes do not belong to the outline. -/
@[simp] theorem outline_insertAttr (s : Scene) (slot : AttrSlot) (name value : String) :
    (s.insertAttr slot name value).outline = s.outline := by
  cases slot with
  | own r => exact outline_modifyEntity s r fun _ => rfl
  | nodeDefaults id => exact outline_modifyGraph s id fun _ => rfl
  | edgeDefaults id => exact outline_modifyGraph s id fun _ => rfl

/-- Draw attributes do not belong to the outline. -/
@[simp] theorem outline_insertDrawAttr (s : Scene) (r : EntityRef) (name value : String) :
    (s.insertDrawAttr r name value).outline = s.outline :=
  outline_modifyEntity s r fun _ => rfl

end Attributes

section Extending

/-- Every entity is still there, under its name and in its graph, and edges have their ends. -/
structure Extends (s t : Scene) : Prop where
  name : ∀ r name, s.name? r = some name → t.name? r = some name
  container : ∀ r name, s.name? r = some name → t.container? r = s.container? r
  traits : ∀ id traits, s.traits? id = some traits → t.traits? id = some traits
  ends : ∀ id ends, s.ends? id = some ends → t.ends? id = some ends

/-- A scene with the same outline extends the other. -/
theorem Extends.of_outline (same : t.outline = s.outline) : s.Extends t where
  name r name known := by rwa [← name?_outline, same, name?_outline]
  container r name known := by rw [← container?_outline, same, container?_outline]
  traits id traits known := by rwa [← traits?_outline, same, traits?_outline]
  ends id ends known := by rwa [← ends?_outline, same, ends?_outline]

theorem Extends.refl (s : Scene) : s.Extends s := .of_outline rfl

/-- Growing twice is growing. -/
theorem Extends.trans (first : s.Extends t) (second : t.Extends u) : s.Extends u where
  name r name known := second.name r name (first.name r name known)
  container r name known :=
    (second.container r name (first.name r name known)).trans (first.container r name known)
  traits id traits known := second.traits id traits (first.traits id traits known)
  ends id ends known := second.ends id ends (first.ends id ends known)

/-- Only what is there has a graph around it. -/
theorem exists_name?_of_container? {r : EntityRef} {container : GraphId}
    (inside : s.container? r = some container) : ∃ name, s.name? r = some name := by
  cases r with
  | graph id =>
    obtain ⟨g, found, -⟩ := Option.bind_eq_some_iff.mp inside
    exact ⟨g.entity.name, by simp [name?, entity?, found]⟩
  | node id =>
    obtain ⟨n, found, -⟩ := Option.map_eq_some_iff.mp inside
    exact ⟨n.entity.name, by simp [name?, entity?, found]⟩
  | edge id =>
    obtain ⟨e, found, -⟩ := Option.map_eq_some_iff.mp inside
    exact ⟨e.entity.name, by simp [name?, entity?, found]⟩

/-- Growing moves nothing to another container. -/
theorem Extends.container_eq {r : EntityRef} {container : GraphId} (kept : s.Extends t)
    (inside : s.container? r = some container) : t.container? r = some container := by
  obtain ⟨name, known⟩ := exists_name?_of_container? inside
  rw [kept.container r name known, inside]

end Extending

end Scene
end XdotViewer
