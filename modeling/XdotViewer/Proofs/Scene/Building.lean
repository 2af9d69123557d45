import XdotViewer.Proofs.Scene.DrawOrder

/-! # Scenes that are built step by step

A scene is built from its root by adding entities to graphs that are there; nodes may share a name.
Everything but the root then lies in a graph that is there, and each graph lists what lies in it in
the order of creation. Attributes can be stored at any time and have no part in this.
-/

namespace XdotViewer

inductive EntityKind where
  | graph
  | node
  | edge
deriving DecidableEq, Repr

/-- The entities of a kind are numbered in the order of creation. -/
def EntityKind.ref : EntityKind → Nat → EntityRef
  | graph, i => .graph ⟨i⟩
  | node, i => .node ⟨i⟩
  | edge, i => .edge ⟨i⟩

private theorem EntityKind.ref_inj {first second : EntityKind} {i j : Nat} :
    first.ref i = second.ref j ↔ first = second ∧ i = j := by
  cases first <;> cases second <;> simp [ref]

/-- The entities of a kind that a graph lists. -/
def Graph.listed (g : Graph) : EntityKind → List EntityRef
  | .graph => g.subgraphs.toList.map .graph
  | .node => g.nodes.toList.map .node
  | .edge => g.edges.toList.map .edge

private theorem Graph.listed_listing (g : Graph) (kind other : EntityKind) (i : Nat) :
    (g.listing (kind.ref i)).listed other =
      g.listed other ++ if other = kind then [kind.ref i] else [] := by
  cases kind <;> cases other <;> simp [listing, EntityKind.ref, listed]

namespace Scene

variable {s t : Scene} {r : EntityRef} {name : String} {container : GraphId} {kind : EntityKind}

/-- Whether there is such an entity. -/
def holds (s : Scene) (r : EntityRef) : Bool :=
  (s.entity? r).isSome

/-- Scenes that come out of a root graph by additions inside graphs that are there. -/
inductive Built : Scene → Prop where
  | new (name : String) (strict : Bool) (kind : GraphKind) : Built (.new name strict kind)
  | addGraph {s : Scene} {parent : GraphId} (name : String) :
    Built s → s.holds (.graph parent) → Built (s.addGraph parent name).1
  | addNode {s : Scene} {container : GraphId} (name : String) :
    Built s → s.holds (.graph container) → Built (s.addNode container name).1
  | ensureNode {s : Scene} {container : GraphId} (name : String) :
    Built s → s.holds (.graph container) → Built (s.ensureNode container name).1
  | addEdge {s : Scene} {container : GraphId} (tail head : String) :
    Built s → s.holds (.graph container) → Built (s.addEdge container tail head).1
  | insertAttr {s : Scene} (slot : AttrSlot) (name value : String) :
    Built s → Built (s.insertAttr slot name value)
  | insertDrawAttr {s : Scene} (r : EntityRef) (name value : String) :
    Built s → Built (s.insertDrawAttr r name value)

/-- How many entities of a kind there are. -/
def count (s : Scene) : EntityKind → Nat
  | .graph => s.graphs.size
  | .node => s.nodes.size
  | .edge => s.edges.size

/-- The entities of a kind that lie directly in a graph, in the order of creation. -/
def placed (s : Scene) (id : GraphId) (kind : EntityKind) : List EntityRef :=
  ((List.range (s.count kind)).map kind.ref).filter fun r => s.container? r = some id

/-- The entities of a kind that a graph lists. -/
def listed (s : Scene) (id : GraphId) (kind : EntityKind) : List EntityRef :=
  ((s.graph? id).map fun g => g.listed kind).getD []

/-- Everything has its place: the root on its own, and all else in a graph that is there. Each graph
lists what lies in it in the order of creation. -/
structure Arranged (s : Scene) : Prop where
  rooted : s.holds (.graph root) ∧ s.container? (.graph root) = none
  contained : ∀ r, s.holds r → r ≠ .graph root →
    ∃ container, s.container? r = some container ∧ s.holds (.graph container)
  filed : s.Filed
  ordered : ∀ id kind, s.listed id kind = s.placed id kind

/-- What lies in a graph lies in one that is there. -/
theorem Arranged.holds_container (arranged : s.Arranged) (there : s.holds r)
    (inside : s.container? r = some container) : s.holds (.graph container) := by
  have other : r ≠ .graph root := by
    rintro rfl
    rw [arranged.rooted.2] at inside
    cases inside
  obtain ⟨around, same, beyond⟩ := arranged.contained r there other
  obtain rfl := Option.some.inj (inside.symm.trans same)
  exact beyond

/-- A scene holds the entities that have a name in it. -/
theorem holds_iff : s.holds r ↔ ∃ name, s.name? r = some name := by
  rw [holds, ← Option.isSome_map (f := Entity.name), Option.isSome_iff_exists]
  rfl

theorem holds_graph {id : GraphId} : s.holds (.graph id) ↔ id.index < s.graphs.size := by
  simp [holds, entity?, graph?]

/-- A graph that a scene holds can be looked up. -/
theorem exists_graph?_of_holds {id : GraphId} (there : s.holds (.graph id)) :
    ∃ g, s.graph? id = some g := by
  rwa [holds, entity?, Option.isSome_map, Option.isSome_iff_exists] at there

private theorem exists_traits?_of_holds {id : GraphId} (there : s.holds (.graph id)) :
    ∃ traits, s.traits? id = some traits := by
  obtain ⟨g, found⟩ := exists_graph?_of_holds there
  exact ⟨(g.strict, g.kind), by rw [traits?, found, Option.map_some]⟩

/-- The contents of a graph are what it lists: graphs, nodes, then edges. -/
theorem contents_eq_listed (s : Scene) (id : GraphId) :
    s.contents id = s.listed id .graph ++ s.listed id .node ++ s.listed id .edge := by
  unfold contents listed
  cases s.graph? id with
  | none => rfl
  | some g => rfl

section Outlines

private theorem listed_outline (s : Scene) (id : GraphId) (kind : EntityKind) :
    s.outline.listed id kind = s.listed id kind := by
  rw [listed, graph?_outline, Option.map_map]
  cases kind <;> rfl

/-- The outline of a scene has as many entities. -/
theorem count_outline (s : Scene) (kind : EntityKind) : s.outline.count kind = s.count kind := by
  cases kind <;> simp [count, outline]

/-- Where everything is placed is a matter of the outline. -/
theorem Arranged.of_outline (arranged : s.Arranged) (same : t.outline = s.outline) :
    t.Arranged := by
  have containers (r : EntityRef) : t.container? r = s.container? r := by
    rw [← container?_outline, same, container?_outline]
  have present (r : EntityRef) : t.holds r = s.holds r := by
    rw [Bool.eq_iff_iff, holds_iff, holds_iff, ← name?_outline, same, name?_outline]
  have counts (kind : EntityKind) : t.count kind = s.count kind := by
    rw [← count_outline, same, count_outline]
  constructor
  · rw [present, containers]
    exact arranged.rooted
  · intro r there other
    simp only [present, containers] at there ⊢
    exact arranged.contained r there other
  · refine ⟨fun child parent inside => ?_, fun id r => ?_⟩
    · exact arranged.filed.older child parent (containers _ ▸ inside)
    · rw [← contents_outline, same, contents_outline, containers]
      exact arranged.filed.listed id r
  · intro id kind
    rw [← listed_outline, same, listed_outline, arranged.ordered]
    simp only [placed, counts, containers]

end Outlines

section Additions

/-- Only the graph that an entity is put into lists it, behind the others of its kind. -/
theorem listed_listing (there : s.holds (.graph container)) (kind other : EntityKind) (i : Nat)
    (id : GraphId) :
    (s.modifyGraph container (.listing (kind.ref i))).listed id other =
      s.listed id other ++ if id = container ∧ other = kind then [kind.ref i] else [] := by
  rw [listed, graph?_modifyGraph, listed]
  by_cases same : id = container
  · subst same
    obtain ⟨g, found⟩ := exists_graph?_of_holds there
    simp [found, Graph.listed_listing]
  · simp [same]

private theorem Adds.holds_iff (added : s.Adds t r name container) (other : EntityRef) :
    t.holds other ↔ other = r ∨ s.holds other := by
  rw [Scene.holds_iff, Scene.holds_iff, added.name]
  by_cases new : other = r
  · simp [new]
  · simp [new]

/-- The newest entity comes last among those of its kind. -/
theorem Adds.placed_eq (added : s.Adds t (kind.ref (s.count kind)) name container)
    (counts : ∀ other, t.count other = s.count other + if other = kind then 1 else 0)
    (id : GraphId) (other : EntityKind) :
    t.placed id other = s.placed id other ++
      if id = container ∧ other = kind then [kind.ref (s.count kind)] else [] := by
  have old : ((List.range (s.count other)).map other.ref).filter
      (fun r => t.container? r = some id) = s.placed id other := by
    refine List.filter_congr fun r member => ?_
    obtain ⟨i, bound, rfl⟩ := List.mem_map.mp member
    have older : other.ref i ≠ kind.ref (s.count kind) := by
      rw [ne_eq, EntityKind.ref_inj]
      rintro ⟨rfl, rfl⟩
      exact Nat.lt_irrefl _ (List.mem_range.mp bound)
    rw [added.around, if_neg older]
  by_cases same : other = kind
  · subst same
    rw [placed, counts, if_pos rfl, List.range_succ, List.map_append, List.filter_append, old]
    congr 1
    by_cases inside : id = container
    · simp [added.around, inside]
    · simp [added.around, inside, Ne.symm inside]
  · rw [placed, counts, if_neg same, Nat.add_zero, old]
    simp [same]

/-- An entity that is put into a graph that is there has its place, and leaves all else in place. -/
theorem Arranged.of_adds (arranged : s.Arranged) (kind : EntityKind)
    (added : s.Adds t (kind.ref (s.count kind)) name container)
    (there : s.holds (.graph container))
    (counts : ∀ other, t.count other = s.count other + if other = kind then 1 else 0)
    (lists : ∀ id other, t.listed id other = s.listed id other ++
      if id = container ∧ other = kind then [kind.ref (s.count kind)] else []) : t.Arranged := by
  have known (r : EntityRef) (present : s.holds r) : r ≠ kind.ref (s.count kind) := by
    obtain ⟨name, named⟩ := Scene.holds_iff.mp present
    exact added.ne_of_name? named
  constructor
  · rw [added.around, if_neg (known _ arranged.rooted.1)]
    exact ⟨(added.holds_iff _).mpr (.inr arranged.rooted.1), arranged.rooted.2⟩
  · intro r present outside
    rw [added.around]
    rcases (added.holds_iff r).mp present with new | old
    · exact ⟨container, if_pos new, (added.holds_iff _).mpr (.inr there)⟩
    · obtain ⟨around, inside, beyond⟩ := arranged.contained r old outside
      rw [if_neg (known r old)]
      exact ⟨around, inside, (added.holds_iff _).mpr (.inr beyond)⟩
  · refine ⟨fun child parent inside => ?_, added.filed arranged.filed.listed⟩
    rw [added.around] at inside
    split at inside
    · -- the new graph is newer than the one around it
      rename_i new
      obtain rfl := Option.some.inj inside
      have added : EntityKind.graph.ref child.index = _ := new
      obtain ⟨rfl, same⟩ := EntityKind.ref_inj.mp added
      rw [same]
      exact holds_graph.mp there
    · exact arranged.filed.older child parent inside
  · intro id other
    rw [lists, added.placed_eq counts, arranged.ordered]

end Additions

section Steps

private theorem Arranged.addGraph (arranged : s.Arranged) (there : s.holds (.graph container))
    (name : String) : (s.addGraph container name).1.Arranged := by
  obtain ⟨traits, known⟩ := exists_traits?_of_holds there
  refine arranged.of_adds .graph (adds_addGraph known name) there (fun other => ?_)
    fun id other => ?_
  · cases other <;> simp [Scene.addGraph, modifyGraph, count]
  · have bound := holds_graph.mp there
    refine (listed_listing ?_ .graph other s.graphs.size id).trans ?_
    · rw [holds_graph, Array.size_push]
      omega
    · rw [listed, graph?_push]
      by_cases new : id = ⟨s.graphs.size⟩
      · -- the new graph lists nothing
        have empty : s.listed id other = [] := by rw [listed, new, graph?_size]; rfl
        rw [if_pos new, empty]
        cases other <;> rfl
      · rw [if_neg new]
        rfl

private theorem Arranged.addNode (arranged : s.Arranged) (there : s.holds (.graph container))
    (name : String) : (s.addNode container name).1.Arranged := by
  obtain ⟨traits, known⟩ := exists_traits?_of_holds there
  refine arranged.of_adds .node (adds_addNode known name) there (fun other => ?_)
    fun id other => listed_listing there .node other s.nodes.size id
  cases other <;> simp [Scene.addNode, modifyGraph, count]

private theorem Arranged.addEdge (arranged : s.Arranged) (there : s.holds (.graph container))
    (tail head : String) : (s.addEdge container tail head).1.Arranged := by
  obtain ⟨⟨strict, kind⟩, known⟩ := exists_traits?_of_holds there
  refine arranged.of_adds .edge (adds_addEdge known tail head) there (fun other => ?_)
    fun id other => listed_listing there .edge other s.edges.size id
  cases other <;> simp [Scene.addEdge, modifyGraph, count]

private theorem arranged_new (name : String) (strict : Bool) (kind : GraphKind) :
    (new name strict kind).Arranged := by
  have valid := wellFormed_new name strict kind
  have only (r : EntityRef) : (new name strict kind).container? r = none := by
    cases inside : (new name strict kind).container? r with
    | none => rfl
    | some id =>
      have member := valid.toFiled.mem_contents_iff.mpr inside
      rcases id with ⟨_ | i⟩ <;> cases member
  constructor
  · exact ⟨rfl, rfl⟩
  · rintro (id | id | id) there other
    · have first : id.index = 0 := Nat.lt_one_iff.mp (holds_graph.mp there)
      exact absurd (congrArg (fun i => EntityRef.graph ⟨i⟩) first) other
    · cases there
    · cases there
  · exact valid.toFiled
  · intro id kind
    rw [placed, List.filter_eq_nil_iff.mpr fun r _ => by simp [only]]
    rcases id with ⟨_ | i⟩ <;> cases kind <;> rfl

/-- A scene that has been built is arranged. -/
theorem Built.arranged (built : s.Built) : s.Arranged := by
  induction built with
  | new name strict kind => exact arranged_new name strict kind
  | addGraph name _ there arranged => exact arranged.addGraph there name
  | addNode name _ there arranged => exact arranged.addNode there name
  | @ensureNode s container name _ there arranged =>
    cases found : s.findNode name with
    | some id =>
      rw [Scene.ensureNode, found]
      exact arranged
    | none =>
      rw [Scene.ensureNode, found]
      exact arranged.addNode there name
  | addEdge tail head _ there arranged => exact arranged.addEdge there tail head
  | insertAttr slot name value _ arranged =>
    exact arranged.of_outline (outline_insertAttr _ slot name value)
  | insertDrawAttr r name value _ arranged =>
    exact arranged.of_outline (outline_insertDrawAttr _ r name value)

end Steps

end Scene
end XdotViewer
