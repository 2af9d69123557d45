import XdotViewer.Proofs.Scene.Outline

/-! # Additions to a scene

Graphs, nodes and edges are added alike: the new entity is stored behind the others of its kind and
listed behind the others in its graph. Nothing else in the outline changes.
-/

namespace XdotViewer

/-- The graph with one more entity in its lists. -/
def Graph.listing (r : EntityRef) (g : Graph) : Graph :=
  match r with
  | .graph id => { g with subgraphs := g.subgraphs.push id }
  | .node id => { g with nodes := g.nodes.push id }
  | .edge id => { g with edges := g.edges.push id }

private theorem Graph.count_contents_listing (g : Graph) (r other : EntityRef) :
    (g.listing r).contents.count other = g.contents.count other + if other = r then 1 else 0 := by
  have alone : List.count other [r] = if other = r then 1 else 0 := by
    by_cases same : other = r
    · simp [same]
    · simp [same, Ne.symm same]
  cases r with
  | graph id =>
    simp only [listing, contents, Array.toList_push, List.map_append, List.map_singleton,
      List.count_append, alone]
    omega
  | node id =>
    simp only [listing, contents, Array.toList_push, List.map_append, List.map_singleton,
      List.count_append, alone]
    omega
  | edge id =>
    simp only [listing, contents, Array.toList_push, List.map_append, List.map_singleton,
      List.count_append, alone]
    omega

namespace Scene

variable {s t grown : Scene} {r : EntityRef} {name : String} {container : GraphId}

section Listing

/-- Changing one graph changes no other. -/
theorem graph?_modifyGraph (s : Scene) (id : GraphId) (f : Graph → Graph) (other : GraphId) :
    (s.modifyGraph id f).graph? other =
      (s.graph? other).map fun g => if other = id then f g else g := by
  obtain ⟨i⟩ := id
  obtain ⟨j⟩ := other
  rw [graph?, modifyGraph, Array.getElem?_modify]
  by_cases same : i = j
  · simp [graph?, same]
  · simp [graph?, same, Ne.symm same]

/-- What a change does not touch in a graph stays as it is in all of them. -/
theorem map_graph?_modifyGraph {α : Type} {id other : GraphId} {change : Graph → Graph}
    {project : Graph → α} (same : other = id → ∀ g, project (change g) = project g) :
    ((s.modifyGraph id change).graph? other).map project = (s.graph? other).map project := by
  rw [graph?_modifyGraph, Option.map_map]
  congr 1
  funext g
  simp only [Function.comp_apply]
  split
  · rename_i here
    exact same here g
  · rfl

/-- What listing does not touch stays as it is in every graph. -/
theorem map_graph?_listing {α : Type} {project : Graph → α}
    (same : ∀ g, project (g.listing r) = project g) (id : GraphId) :
    ((s.modifyGraph container (.listing r)).graph? id).map project =
      (s.graph? id).map project :=
  map_graph?_modifyGraph fun _ => same

private theorem name?_listing (other : EntityRef) :
    (s.modifyGraph container (.listing r)).name? other = s.name? other := by
  cases other with
  | graph id =>
    simp only [name?, entity?, Option.map_map]
    exact map_graph?_listing (fun g => by cases r <;> rfl) id
  | node id => rfl
  | edge id => rfl

private theorem container?_listing (other : EntityRef) :
    (s.modifyGraph container (.listing r)).container? other = s.container? other := by
  cases other with
  | graph id =>
    rw [container?, graph?_modifyGraph, container?]
    cases s.graph? id with
    | none => rfl
    | some g =>
      simp only [Option.map_some, Option.bind_some]
      split
      · cases r <;> rfl
      · rfl
  | node id => rfl
  | edge id => rfl

private theorem traits?_listing (id : GraphId) :
    (s.modifyGraph container (.listing r)).traits? id = s.traits? id :=
  map_graph?_listing (fun g => by cases r <;> rfl) id

/-- Listing an entity in a container adds it to the contents of that container only. -/
theorem count_contents_listing {traits : Bool × GraphKind}
    (known : s.traits? container = some traits) (id : GraphId) (other : EntityRef) :
    ((s.modifyGraph container (.listing r)).contents id).count other =
      (s.contents id).count other + if id = container ∧ other = r then 1 else 0 := by
  obtain ⟨g, found, -⟩ := Option.map_eq_some_iff.mp known
  rw [contents, graph?_modifyGraph, contents]
  by_cases same : id = container
  · subst same
    simpa [found] using g.count_contents_listing r other
  · simp [same]

end Listing

/-- One scene has one entity more than another, which is listed in the graph around it. -/
structure Adds (s t : Scene) (r : EntityRef) (name : String) (container : GraphId) : Prop where
  fresh : s.name? r = none
  name : ∀ other, t.name? other = if other = r then some name else s.name? other
  around : ∀ other,
    t.container? other = if other = r then some container else s.container? other
  contents : ∀ id other, (t.contents id).count other =
    (s.contents id).count other + if id = container ∧ other = r then 1 else 0

/-- An entity that is stored first and then listed. -/
theorem Adds.of_grown {traits : Bool × GraphKind} (fresh : s.name? r = none)
    (names : ∀ other, grown.name? other = if other = r then some name else s.name? other)
    (containers : ∀ other,
      grown.container? other = if other = r then some container else s.container? other)
    (contents : ∀ id, grown.contents id = s.contents id)
    (known : grown.traits? container = some traits) :
    s.Adds (grown.modifyGraph container (.listing r)) r name container where
  fresh := fresh
  name other := (name?_listing other).trans (names other)
  around other := (container?_listing other).trans (containers other)
  contents id other := by rw [count_contents_listing known, contents]

section Graphs

theorem graph?_push (s : Scene) (g : Graph) (id : GraphId) :
    ({ s with graphs := s.graphs.push g } : Scene).graph? id =
      if id = ⟨s.graphs.size⟩ then some g else s.graph? id := by
  obtain ⟨i⟩ := id
  simp only [graph?, Array.getElem?_push, GraphId.mk.injEq]

/-- The next free number is not taken. -/
theorem graph?_size (s : Scene) : s.graph? ⟨s.graphs.size⟩ = none :=
  Array.getElem?_eq_none (Nat.le_refl _)

/-- A new graph takes strictness and kind from the one around it. -/
theorem traits?_addGraph {parent : GraphId} {traits : Bool × GraphKind}
    (known : s.traits? parent = some traits) (name : String) (id : GraphId) :
    (s.addGraph parent name).1.traits? id =
      if id = ⟨s.graphs.size⟩ then some traits else s.traits? id := by
  obtain ⟨g, found, rfl⟩ := Option.map_eq_some_iff.mp known
  refine (traits?_listing (r := .graph ⟨s.graphs.size⟩) id).trans ?_
  rw [traits?, graph?_push, found, traits?]
  split <;> rfl

/-- A graph is added as the last of the graphs, to its parent and nothing else. -/
theorem adds_addGraph {parent : GraphId} {traits : Bool × GraphKind}
    (known : s.traits? parent = some traits) (name : String) :
    s.Adds (s.addGraph parent name).1 (.graph ⟨s.graphs.size⟩) name parent := by
  obtain ⟨g, found, rfl⟩ := Option.map_eq_some_iff.mp known
  have unknown := s.graph?_size
  apply Adds.of_grown (r := .graph ⟨s.graphs.size⟩)
  · simp [name?, entity?, unknown]
  · rintro (id | id | id)
    · simp only [name?, entity?, graph?_push, EntityRef.graph.injEq]
      split <;> rfl
    · rfl
    · rfl
  · rintro (id | id | id)
    · simp only [container?, graph?_push, EntityRef.graph.injEq]
      split <;> rfl
    · rfl
    · rfl
  · intro id
    simp only [contents, graph?_push]
    split
    · rename_i new
      rw [new, unknown]
      rfl
    · rfl
  · have old : parent ≠ ⟨s.graphs.size⟩ := by
      rintro rfl
      rw [unknown] at found
      cases found
    rw [traits?, graph?_push, if_neg old, found]
    rfl

@[simp] theorem ends?_addGraph (parent : GraphId) (name : String) (id : EdgeId) :
    (s.addGraph parent name).1.ends? id = s.ends? id := rfl

@[simp] theorem findNode_addGraph (parent : GraphId) (name wanted : String) :
    (s.addGraph parent name).1.findNode wanted = s.findNode wanted := rfl

end Graphs

section Nodes

private theorem node?_push (s : Scene) (n : Node) (index : OrderedMap String NodeId) (id : NodeId) :
    ({ s with nodes := s.nodes.push n, nodeIndex := index } : Scene).node? id =
      if id = ⟨s.nodes.size⟩ then some n else s.node? id := by
  obtain ⟨i⟩ := id
  simp only [node?, Array.getElem?_push, NodeId.mk.injEq]

private theorem node?_size (s : Scene) : s.node? ⟨s.nodes.size⟩ = none :=
  Array.getElem?_eq_none (Nat.le_refl _)

/-- A node is added as the last of the nodes, to its container and nothing else. -/
theorem adds_addNode {traits : Bool × GraphKind} (known : s.traits? container = some traits)
    (name : String) :
    s.Adds (s.addNode container name).1 (.node ⟨s.nodes.size⟩) name container := by
  apply Adds.of_grown (r := .node ⟨s.nodes.size⟩)
  · simp [name?, entity?, node?_size]
  · rintro (id | id | id)
    · rfl
    · simp only [name?, entity?, node?_push, EntityRef.node.injEq]
      split <;> rfl
    · rfl
  · rintro (id | id | id)
    · rfl
    · simp only [container?, node?_push, EntityRef.node.injEq]
      split <;> rfl
    · rfl
  · intro id
    rfl
  · exact known

@[simp] theorem traits?_addNode (name : String) (id : GraphId) :
    (s.addNode container name).1.traits? id = s.traits? id :=
  traits?_listing (r := .node ⟨s.nodes.size⟩) id

@[simp] theorem ends?_addNode (name : String) (id : EdgeId) :
    (s.addNode container name).1.ends? id = s.ends? id := rfl

/-- A node is found by its name once it is added. -/
theorem findNode_addNode (name wanted : String) :
    (s.addNode container name).1.findNode wanted =
      if name = wanted then some ⟨s.nodes.size⟩ else s.findNode wanted :=
  OrderedMap.get?_insert _ _ _ _

end Nodes

section Edges

private theorem edge?_push (s : Scene) (e : Edge) (id : EdgeId) :
    ({ s with edges := s.edges.push e } : Scene).edge? id =
      if id = ⟨s.edges.size⟩ then some e else s.edge? id := by
  obtain ⟨i⟩ := id
  simp only [edge?, Array.getElem?_push, EdgeId.mk.injEq]

private theorem edge?_size (s : Scene) : s.edge? ⟨s.edges.size⟩ = none :=
  Array.getElem?_eq_none (Nat.le_refl _)

/-- A new edge is named after its ends and the kind of the graph around it. -/
theorem adds_addEdge {strict : Bool} {kind : GraphKind}
    (known : s.traits? container = some (strict, kind)) (tail head : String) :
    s.Adds (s.addEdge container tail head).1 (.edge ⟨s.edges.size⟩)
      (tail ++ kind.edgeOp ++ head) container := by
  obtain ⟨g, found, same⟩ := Option.map_eq_some_iff.mp known
  obtain ⟨-, rfl⟩ := Prod.mk.inj same
  apply Adds.of_grown (r := .edge ⟨s.edges.size⟩)
  · simp [name?, entity?, edge?_size]
  · rintro (id | id | id)
    · rfl
    · rfl
    · simp only [name?, entity?, edge?_push, EntityRef.edge.injEq, found]
      split <;> rfl
  · rintro (id | id | id)
    · rfl
    · rfl
    · simp only [container?, edge?_push, EntityRef.edge.injEq]
      split <;> rfl
  · intro id
    rfl
  · exact known

@[simp] theorem traits?_addEdge (tail head : String) (id : GraphId) :
    (s.addEdge container tail head).1.traits? id = s.traits? id :=
  traits?_listing (r := .edge ⟨s.edges.size⟩) id

/-- A new edge has the ends that are given. -/
theorem ends?_addEdge (tail head : String) (id : EdgeId) :
    (s.addEdge container tail head).1.ends? id =
      if id = ⟨s.edges.size⟩ then some (tail, head) else s.ends? id := by
  refine (congrArg (Option.map _) (s.edge?_push _ id)).trans ?_
  rw [ends?]
  split <;> rfl

@[simp] theorem findNode_addEdge (tail head wanted : String) :
    (s.addEdge container tail head).1.findNode wanted = s.findNode wanted := rfl

end Edges

end Scene
end XdotViewer
