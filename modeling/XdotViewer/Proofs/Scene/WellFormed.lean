import XdotViewer.Proofs.Scene.Additions

/-! # Well-formed scenes

The graphs of a scene form a tree below the root. What lies in a graph is listed there once and
nowhere else, the names of nodes are distinct, and edges join nodes. Attributes have no part in
this, and additions inside a graph that is there preserve it.
-/

namespace XdotViewer.Scene

variable {s t : Scene} {strict : Bool} {kind : GraphKind} {container : GraphId}

/-- An edge joins two nodes, and its name is written as the graph around it writes edges. -/
structure Joins (s : Scene) (id : EdgeId) (tail head : String) : Prop where
  start : ∃ node, s.name? (.node node) = some tail
  target : ∃ node, s.name? (.node node) = some head
  written : ∃ container strict kind, s.container? (.edge id) = some container ∧
    s.traits? container = some (strict, kind) ∧
    s.name? (.edge id) = some (tail ++ kind.edgeOp ++ head)

structure WellFormed (s : Scene) (strict : Bool) (kind : GraphKind) : Prop where
  /-- The first graph is the root, with no graph around it. -/
  root : s.traits? Scene.root = some (strict, kind) ∧ s.container? (.graph Scene.root) = none
  /-- Every other graph lies in an older one. -/
  nested : ∀ id traits, s.traits? id = some traits → id ≠ Scene.root →
    ∃ parent, s.container? (.graph id) = some parent ∧ parent.index < id.index
  /-- All graphs have the strictness and the kind of the root. -/
  uniform : ∀ id traits, s.traits? id = some traits → traits = (strict, kind)
  /-- An entity is listed once in the graph around it, and in no other graph. -/
  filed : ∀ id r, (s.contents id).count r = if s.container? r = some id then 1 else 0
  /-- A name finds the node that has it, so no two nodes share a name. -/
  named : ∀ name id, s.findNode name = some id ↔ s.name? (.node id) = some name
  joined : ∀ id tail head, s.ends? id = some (tail, head) → s.Joins id tail head

section Attributes

private theorem Extends.joins {id : EdgeId} {tail head : String} (kept : s.Extends t)
    (joins : s.Joins id tail head) : t.Joins id tail head := by
  obtain ⟨⟨first, tail⟩, ⟨second, head⟩, container, strict, kind, inside, traits, name⟩ := joins
  exact ⟨⟨first, kept.name _ _ tail⟩, ⟨second, kept.name _ _ head⟩, container, strict, kind,
    kept.container_eq inside, kept.traits _ _ traits, kept.name _ _ name⟩

/-- Well-formedness is a matter of the outline. -/
theorem WellFormed.of_outline (valid : s.WellFormed strict kind) (same : t.outline = s.outline) :
    t.WellFormed strict kind := by
  have names (r : EntityRef) : t.name? r = s.name? r := by
    rw [← name?_outline, same, name?_outline]
  have containers (r : EntityRef) : t.container? r = s.container? r := by
    rw [← container?_outline, same, container?_outline]
  have traits (id : GraphId) : t.traits? id = s.traits? id := by
    rw [← traits?_outline, same, traits?_outline]
  have ends (id : EdgeId) : t.ends? id = s.ends? id := by
    rw [← ends?_outline, same, ends?_outline]
  have contents (id : GraphId) : t.contents id = s.contents id := by
    rw [← contents_outline, same, contents_outline]
  have found (name : String) : t.findNode name = s.findNode name := by
    rw [← findNode_outline, same, findNode_outline]
  constructor
  · rw [traits, containers]
    exact valid.root
  · intro id known
    rw [traits, containers]
    exact valid.nested id known
  · intro id
    rw [traits]
    exact valid.uniform id
  · intro id r
    rw [contents, containers]
    exact valid.filed id r
  · intro name id
    rw [found, names]
    exact valid.named name id
  · intro id tail head known
    rw [ends] at known
    exact (Extends.of_outline same).joins (valid.joined id tail head known)

/-- A scene with a root only is well-formed. -/
theorem wellFormed_new (name : String) (strict : Bool) (kind : GraphKind) :
    (new name strict kind).WellFormed strict kind := by
  have only (id : GraphId) (other : id ≠ Scene.root) :
      (new name strict kind).graph? id = none := by
    obtain ⟨_ | i⟩ := id
    · exact absurd rfl other
    · rfl
  constructor
  · exact ⟨rfl, rfl⟩
  · intro id traits known other
    rw [traits?, only id other] at known
    cases known
  · intro id traits known
    by_cases first : id = Scene.root
    · subst first
      exact (Option.some.inj known).symm
    · rw [traits?, only id first] at known
      cases known
  · intro id r
    have empty : (new name strict kind).contents id = [] := by
      by_cases first : id = Scene.root
      · rw [first]
        rfl
      · rw [contents, only id first]
        rfl
    have outside : (new name strict kind).container? r = none := by
      rcases r with id | id | id
      · by_cases first : id = Scene.root
        · rw [first]
          rfl
        · rw [container?, only id first]
          rfl
      · rfl
      · rfl
    rw [empty, outside]
    rfl
  · intro wanted id
    constructor
    · intro found
      cases found
    · intro found
      cases found
  · intro id tail head known
    cases known

end Attributes

section Added

variable {r : EntityRef} {name : String}

/-- What has been added was not there before. -/
theorem Adds.ne_of_name? (added : s.Adds t r name container) {other : EntityRef} {known : String}
    (there : s.name? other = some known) : other ≠ r := by
  rintro rfl
  rw [added.fresh] at there
  cases there

private theorem Adds.ne_of_traits? {id : GraphId} {traits : Bool × GraphKind}
    (added : s.Adds t r name container) (there : s.traits? id = some traits) : .graph id ≠ r := by
  obtain ⟨g, found, -⟩ := Option.map_eq_some_iff.mp there
  have known : s.name? (.graph id) = some g.entity.name := by simp [name?, entity?, found]
  exact added.ne_of_name? known

private theorem Adds.ne_of_ends? {id : EdgeId} {ends : String × String}
    (added : s.Adds t r name container) (there : s.ends? id = some ends) : .edge id ≠ r := by
  obtain ⟨e, found, -⟩ := Option.map_eq_some_iff.mp there
  have known : s.name? (.edge id) = some e.entity.name := by simp [name?, entity?, found]
  exact added.ne_of_name? known

private theorem Adds.extends (added : s.Adds t r name container)
    (traits : ∀ id, .graph id ≠ r → t.traits? id = s.traits? id)
    (ends : ∀ id, .edge id ≠ r → t.ends? id = s.ends? id) : s.Extends t where
  name other known there := by rw [added.name, if_neg (added.ne_of_name? there), there]
  container other known there := by rw [added.around, if_neg (added.ne_of_name? there)]
  traits id known there := by rw [traits id (added.ne_of_traits? there), there]
  ends id known there := by rw [ends id (added.ne_of_ends? there), there]

/-- The new entity was listed nowhere, and now it is in the graph around it. -/
theorem Adds.filed (added : s.Adds t r name container)
    (filed : ∀ id r, (s.contents id).count r = if s.container? r = some id then 1 else 0)
    (id : GraphId) (other : EntityRef) :
    (t.contents id).count other = if t.container? other = some id then 1 else 0 := by
  rw [added.contents, added.around, filed]
  by_cases new : other = r
  · have outside : s.container? r = none := by
      apply Option.eq_none_iff_forall_ne_some.mpr
      intro around inside
      obtain ⟨known, there⟩ := exists_name?_of_container? inside
      exact added.ne_of_name? there rfl
    subst new
    simp [outside, eq_comm]
  · simp [new]

/-- A well-formed scene with one entity more is well-formed if the entity is: a graph is like the
others and newer than the one around it, an edge joins nodes, and names still find their nodes. -/
theorem WellFormed.of_adds (valid : s.WellFormed strict kind) (added : s.Adds t r name container)
    (kept : s.Extends t)
    (graphs : ∀ id traits, t.traits? id = some traits → s.traits? id = some traits ∨
      .graph id = r ∧ traits = (strict, kind) ∧ container.index < id.index)
    (named : ∀ wanted id, t.findNode wanted = some id ↔ t.name? (.node id) = some wanted)
    (edges : ∀ id tail head, t.ends? id = some (tail, head) →
      s.ends? id = some (tail, head) ∨ t.Joins id tail head) : t.WellFormed strict kind := by
  constructor
  · refine ⟨kept.traits _ _ valid.root.1, ?_⟩
    rw [added.around, if_neg (added.ne_of_traits? valid.root.1)]
    exact valid.root.2
  · intro id traits there other
    rw [added.around]
    rcases graphs id traits there with old | ⟨new, -, older⟩
    · rw [if_neg (added.ne_of_traits? old)]
      exact valid.nested id traits old other
    · exact ⟨container, if_pos new, older⟩
  · intro id traits there
    rcases graphs id traits there with old | ⟨-, same, -⟩
    · exact valid.uniform id traits old
    · exact same
  · exact added.filed valid.filed
  · exact named
  · intro id tail head there
    rcases edges id tail head there with old | joins
    · exact kept.joins (valid.joined id tail head old)
    · exact joins

end Added

section Statements

/-- A scene only grows when a graph is added. -/
theorem extends_addGraph {parent : GraphId} {traits : Bool × GraphKind}
    (known : s.traits? parent = some traits) (name : String) :
    s.Extends (s.addGraph parent name).1 := by
  apply (adds_addGraph known name).extends
  · intro id old
    rw [traits?_addGraph known, if_neg fun new => old (congrArg EntityRef.graph new)]
  · exact fun id _ => ends?_addGraph parent name id

/-- A scene stays well-formed when a graph is added. -/
theorem WellFormed.addGraph {parent : GraphId} (valid : s.WellFormed strict kind)
    (known : s.traits? parent = some (strict, kind)) (name : String) :
    (s.addGraph parent name).1.WellFormed strict kind := by
  have added := adds_addGraph known name
  apply valid.of_adds added (extends_addGraph known name)
  · intro id traits there
    rw [traits?_addGraph known] at there
    split at there
    · rename_i new
      obtain ⟨g, found, -⟩ := Option.map_eq_some_iff.mp known
      obtain ⟨older, -⟩ := Array.getElem?_eq_some_iff.mp found
      exact .inr ⟨congrArg EntityRef.graph new, (Option.some.inj there).symm, new ▸ older⟩
    · exact .inl there
  · intro wanted id
    rw [findNode_addGraph, added.name, if_neg nofun]
    exact valid.named wanted id
  · exact fun id tail head there => .inl there

private theorem extends_addNode {traits : Bool × GraphKind}
    (known : s.traits? container = some traits)
    (name : String) : s.Extends (s.addNode container name).1 :=
  (adds_addNode known name).extends (fun id _ => traits?_addNode name id)
    fun id _ => ends?_addNode name id

private theorem WellFormed.addNode (valid : s.WellFormed strict kind)
    (known : s.traits? container = some (strict, kind)) {name : String}
    (fresh : s.findNode name = none) : (s.addNode container name).1.WellFormed strict kind := by
  have added := adds_addNode known name
  apply valid.of_adds added (extends_addNode known name)
  · intro id traits there
    rw [traits?_addNode] at there
    exact .inl there
  · intro wanted id
    rw [findNode_addNode, added.name]
    by_cases taken : name = wanted
    · -- The name finds the new node, and no old node had it.
      subst taken
      rw [if_pos rfl, Option.some.injEq]
      split
      · rename_i new
        exact iff_of_true (EntityRef.node.inj new).symm rfl
      · rename_i old
        apply iff_of_false fun same => old (congrArg EntityRef.node same.symm)
        rw [← valid.named, fresh]
        nofun
    · rw [if_neg taken]
      split
      · rename_i new
        apply iff_of_false
        · rw [valid.named, new, added.fresh]
          nofun
        · intro same
          exact taken (Option.some.inj same)
      · exact valid.named wanted id
  · exact fun id tail head there => .inl there

/-- A node with the name is there afterwards, and nothing is lost. -/
theorem WellFormed.ensureNode (valid : s.WellFormed strict kind)
    (known : s.traits? container = some (strict, kind)) (name : String) :
    (s.ensureNode container name).1.WellFormed strict kind ∧
      s.Extends (s.ensureNode container name).1 ∧
      (s.ensureNode container name).1.name? (.node (s.ensureNode container name).2) =
        some name := by
  cases found : s.findNode name with
  | some id =>
    rw [Scene.ensureNode, found]
    exact ⟨valid, .refl s, (valid.named name id).mp found⟩
  | none =>
    rw [Scene.ensureNode, found]
    refine ⟨valid.addNode known found, extends_addNode known name, ?_⟩
    exact ((adds_addNode known name).name _).trans (if_pos rfl)

/-- A scene only grows when an edge is added. -/
theorem extends_addEdge (known : s.traits? container = some (strict, kind))
    (tail head : String) : s.Extends (s.addEdge container tail head).1 := by
  apply (adds_addEdge known tail head).extends
  · exact fun id _ => traits?_addEdge tail head id
  · intro id old
    rw [ends?_addEdge, if_neg fun new => old (congrArg EntityRef.edge new)]

/-- A scene stays well-formed when an edge is added between nodes that are there. -/
theorem WellFormed.addEdge (valid : s.WellFormed strict kind)
    (known : s.traits? container = some (strict, kind)) {tail head : String}
    (start : ∃ node, s.name? (.node node) = some tail)
    (target : ∃ node, s.name? (.node node) = some head) :
    (s.addEdge container tail head).1.WellFormed strict kind := by
  have added := adds_addEdge known tail head
  have kept := extends_addEdge known tail head
  apply valid.of_adds added kept
  · intro id traits there
    rw [traits?_addEdge] at there
    exact .inl there
  · intro wanted id
    rw [findNode_addEdge, added.name, if_neg nofun]
    exact valid.named wanted id
  · intro id first second there
    rw [ends?_addEdge] at there
    split at there
    · rename_i new
      subst new
      obtain ⟨rfl, rfl⟩ := Prod.mk.inj (Option.some.inj there)
      obtain ⟨node, begins⟩ := start
      obtain ⟨other, ends⟩ := target
      refine .inr ⟨⟨node, kept.name _ _ begins⟩, ⟨other, kept.name _ _ ends⟩, container, strict,
        kind, ?_, kept.traits _ _ known, ?_⟩
      · rw [added.around, if_pos rfl]
      · rw [added.name, if_pos rfl]
    · exact .inl there

end Statements

end XdotViewer.Scene
