import XdotViewer.Proofs.Scene.Building
import XdotViewer.Scene.Lookup

/-! # Inherited attributes

An attribute is sought with the entity itself, and then in the graphs that lead from it to the
root, the nearest first. The way out ends, since a graph is younger than the one around it. A value
that is put into a map shows where that map is on the way and no nearer one has the attribute, and
it changes nothing else.
-/

namespace XdotViewer.Scene

variable {s : Scene} {r : EntityRef} {slot : AttrSlot} {name value : String}

/-- The way out of a place: the graph around it, the graph around that one and so on, up to a graph
with none around it. -/
inductive LeadsOut (s : Scene) : Option GraphId → List GraphId → Prop
  | outside : LeadsOut s none []
  | within {id : GraphId} {outer : List GraphId} :
    s.holds (.graph id) → LeadsOut s (s.container? (.graph id)) outer →
    LeadsOut s (some id) (id :: outer)

/-- The value that one map has for an attribute. -/
def value? (s : Scene) (slot : AttrSlot) (name : String) : Option String :=
  (s.attrMap? slot).bind fun map => map.get? name

/-- A map decides an attribute if it is one of those that are looked through and no map before it
has the attribute. -/
def Decides (s : Scene) (maps : List AttrSlot) (slot : AttrSlot) (name : String) : Prop :=
  ∃ nearer farther, maps = nearer ++ slot :: farther ∧
    ∀ near ∈ nearer, s.value? near name = none

section Ways

/-- A graph is younger than the one around it, so a way out from it passes fewer graphs than its
number says. -/
theorem Arranged.leadsOut_chain (arranged : s.Arranged) {limit : Nat} {id : GraphId}
    (there : s.holds (.graph id)) (enough : id.index < limit) :
    s.LeadsOut (some id) (s.chain limit (some id)) := by
  induction limit generalizing id with
  | zero => cases enough
  | succ limit ih =>
    refine .within there ?_
    change s.LeadsOut (s.container? (.graph id)) (s.chain limit (s.container? (.graph id)))
    cases around : s.container? (.graph id) with
    | none => cases limit <;> exact .outside
    | some outer =>
      have older := arranged.filed.older id outer around
      exact ih (arranged.holds_container there around) (by omega)

private theorem Arranged.leadsOut_ancestors (arranged : s.Arranged) (there : s.holds r) :
    s.LeadsOut (s.container? r) (s.ancestors r) := by
  unfold ancestors
  cases around : s.container? r with
  | none => cases s.graphs.size <;> exact .outside
  | some outer =>
    have beyond := arranged.holds_container there around
    exact arranged.leadsOut_chain beyond (holds_graph.mp beyond)

/-- There is only one way out. -/
theorem LeadsOut.unique {around : Option GraphId} {first second : List GraphId}
    (way : s.LeadsOut around first) (other : s.LeadsOut around second) : first = second := by
  induction way generalizing second with
  | outside =>
    cases other
    rfl
  | within _ _ ih =>
    cases other with
    | within _ outer => rw [ih outer]

private theorem holds_of_leadsOut {around : Option GraphId} {chain : List GraphId}
    (way : s.LeadsOut around chain) {id : GraphId} (member : id ∈ chain) : s.holds (.graph id) := by
  induction way with
  | outside => cases member
  | within there _ ih =>
    rcases List.mem_cons.mp member with rfl | later
    · exact there
    · exact ih later

end Ways

section Stores

variable {α : Type} {id : GraphId} {other : EntityRef} {f : Entity → Entity}

private theorem map_getElem?_modify {β : Type} {xs : Array β} {i j : Nat} {change : β → β}
    {project : β → α} (same : i = j → ∀ x, project (change x) = project x) :
    (xs.modify i change)[j]?.map project = xs[j]?.map project := by
  rw [Array.getElem?_modify]
  split
  · rename_i here
    rw [Option.map_map]
    exact congrFun (congrArg _ (funext (same here))) _
  · rfl

/-- What a change does not touch in an entity stays as it is in all of them. -/
theorem map_entity?_modifyEntity {project : Entity → α}
    (same : other = r → ∀ entity, project (f entity) = project entity) :
    ((s.modifyEntity r f).entity? other).map project = (s.entity? other).map project := by
  cases r with
  | graph around =>
    cases other with
    | graph id =>
      simp only [entity?, Option.map_map]
      exact map_graph?_modifyGraph fun here g => same (congrArg EntityRef.graph here) g.entity
    | node id => rfl
    | edge id => rfl
  | node changed =>
    cases other with
    | graph id => rfl
    | node id =>
      simp only [entity?, Option.map_map]
      exact map_getElem?_modify fun here n =>
        same (congrArg (fun i => EntityRef.node ⟨i⟩) here.symm) n.entity
    | edge id => rfl
  | edge changed =>
    cases other with
    | graph id => rfl
    | node id => rfl
    | edge id =>
      simp only [entity?, Option.map_map]
      exact map_getElem?_modify fun here e =>
        same (congrArg (fun i => EntityRef.edge ⟨i⟩) here.symm) e.entity

private theorem entity?_modifyEntity_self (s : Scene) (r : EntityRef) (f : Entity → Entity) :
    (s.modifyEntity r f).entity? r = (s.entity? r).map f := by
  rcases r with id | id | id <;>
    simp [modifyEntity, modifyGraph, entity?, graph?, node?, edge?, Array.getElem?_modify,
      Function.comp_def]

private theorem map_graph?_modifyEntity {project : Graph → α}
    (same : ∀ g entity, project { g with entity } = project g) :
    ((s.modifyEntity r f).graph? id).map project = (s.graph? id).map project := by
  cases r with
  | graph around => exact map_graph?_modifyGraph fun _ g => same g _
  | node changed => rfl
  | edge changed => rfl

private theorem entity?_modifyGraph {change : Graph → Graph}
    (same : ∀ g, (change g).entity = g.entity) :
    (s.modifyGraph id change).entity? r = s.entity? r := by
  cases r with
  | graph other => exact map_graph?_modifyGraph fun _ => same
  | node other => rfl
  | edge other => rfl

/-- Inserting an attribute changes the map of its slot. -/
theorem attrMap?_insertAttr_self (s : Scene) (slot : AttrSlot) (name value : String) :
    (s.insertAttr slot name value).attrMap? slot =
      (s.attrMap? slot).map fun map => map.insert name value := by
  cases slot with
  | own r =>
    rw [attrMap?, insertAttr, entity?_modifyEntity_self, attrMap?, Option.map_map, Option.map_map]
    rfl
  | nodeDefaults id => simp [attrMap?, insertAttr, graph?_modifyGraph, Function.comp_def]
  | edgeDefaults id => simp [attrMap?, insertAttr, graph?_modifyGraph, Function.comp_def]

private theorem attrMap?_insertAttr_of_ne {other : AttrSlot} (different : other ≠ slot)
    (name value : String) : (s.insertAttr slot name value).attrMap? other = s.attrMap? other := by
  cases slot with
  | own r =>
    cases other with
    | own r' => exact map_entity?_modifyEntity fun same => absurd (congrArg _ same) different
    | nodeDefaults id => exact map_graph?_modifyEntity fun _ _ => rfl
    | edgeDefaults id => exact map_graph?_modifyEntity fun _ _ => rfl
  | nodeDefaults id =>
    cases other with
    | own r =>
      rw [insertAttr, attrMap?, attrMap?, entity?_modifyGraph]
      exact fun _ => rfl
    | nodeDefaults id' =>
      exact map_graph?_modifyGraph fun same => absurd (congrArg _ same) different
    | edgeDefaults id' => exact map_graph?_modifyGraph fun _ _ => rfl
  | edgeDefaults id =>
    cases other with
    | own r =>
      rw [insertAttr, attrMap?, attrMap?, entity?_modifyGraph]
      exact fun _ => rfl
    | nodeDefaults id' => exact map_graph?_modifyGraph fun _ _ => rfl
    | edgeDefaults id' =>
      exact map_graph?_modifyGraph fun same => absurd (congrArg _ same) different

/-- Draw instructions are stored apart from the attributes. -/
theorem attrMap?_insertDrawAttr (s : Scene) (owner : EntityRef) (slot : AttrSlot)
    (name value : String) :
    (s.insertDrawAttr owner name value).attrMap? slot = s.attrMap? slot := by
  cases slot with
  | own r => exact map_entity?_modifyEntity fun _ _ => rfl
  | nodeDefaults id => exact map_graph?_modifyEntity fun _ _ => rfl
  | edgeDefaults id => exact map_graph?_modifyEntity fun _ _ => rfl

/-- An attribute that has been inserted has its value. -/
theorem value?_insertAttr_self {map : AttrMap} (there : s.attrMap? slot = some map)
    (name value : String) : (s.insertAttr slot name value).value? slot name = some value := by
  rw [value?, attrMap?_insertAttr_self, there, Option.map_some, Option.bind_some,
    OrderedMap.get?_insert, if_pos rfl]

/-- Other slots and other names keep their values. -/
theorem value?_insertAttr_of_ne {other : AttrSlot} {wanted : String}
    (different : other ≠ slot ∨ wanted ≠ name) (value : String) :
    (s.insertAttr slot name value).value? other wanted = s.value? other wanted := by
  by_cases same : other = slot
  · subst same
    have unlike : name ≠ wanted := (different.resolve_left (not_not_intro rfl)).symm
    rw [value?, attrMap?_insertAttr_self, value?]
    cases s.attrMap? other with
    | none => rfl
    | some map => exact (map.get?_insert name value wanted).trans (if_neg unlike)
  · rw [value?, attrMap?_insertAttr_of_ne same, value?]

end Stores

section Lookups

variable {maps : List AttrSlot} {head : AttrSlot}

private theorem decides_cons : s.Decides (head :: maps) slot name ↔
    head = slot ∨ s.value? head name = none ∧ s.Decides maps slot name := by
  constructor
  · rintro ⟨nearer, farther, whole, none⟩
    cases nearer with
    | nil => exact .inl (List.cons.inj whole).1
    | cons near others =>
      obtain ⟨rfl, rest⟩ := List.cons.inj whole
      obtain ⟨first, later⟩ := List.forall_mem_cons.mp none
      exact .inr ⟨first, others, farther, rest, later⟩
  · rintro (rfl | ⟨first, nearer, farther, rfl, none⟩)
    · exact ⟨[], maps, rfl, nofun⟩
    · exact ⟨head :: nearer, farther, rfl, List.forall_mem_cons.mpr ⟨first, none⟩⟩

private theorem findSome?_insertAttr_of_decides {map : AttrMap} (there : s.attrMap? slot = some map)
    (decides : s.Decides maps slot name) (value : String) :
    (maps.findSome? fun near => (s.insertAttr slot name value).value? near name) = some value := by
  induction maps with
  | nil =>
    obtain ⟨nearer, farther, whole, -⟩ := decides
    exact absurd whole.symm (by simp)
  | cons head rest ih =>
    rw [List.findSome?_cons]
    by_cases same : head = slot
    · rw [same, value?_insertAttr_self there]
    · obtain ⟨first, later⟩ := (decides_cons.mp decides).resolve_left same
      rw [value?_insertAttr_of_ne (.inl same), first]
      exact ih later

private theorem findSome?_insertAttr_of_not_decides (hidden : ¬ s.Decides maps slot name)
    (value : String) :
    (maps.findSome? fun near => (s.insertAttr slot name value).value? near name) =
      maps.findSome? fun near => s.value? near name := by
  induction maps with
  | nil => rfl
  | cons head rest ih =>
    rw [decides_cons, not_or] at hidden
    rw [List.findSome?_cons, List.findSome?_cons, value?_insertAttr_of_ne (.inl hidden.1)]
    cases first : s.value? head name with
    | none => exact ih fun later => hidden.2 ⟨first, later⟩
    | some other => rfl

private theorem chain_outline (s : Scene) (limit : Nat) (around : Option GraphId) :
    s.outline.chain limit around = s.chain limit around := by
  induction limit generalizing around with
  | zero => rfl
  | succ limit ih =>
    cases around with
    | none => rfl
    | some id =>
      have outer : (s.outline.graph? id).bind Graph.parent = (s.graph? id).bind Graph.parent :=
        s.container?_outline (.graph id)
      rw [chain, chain, outer, ih]

/-- Where an attribute is sought is a matter of the outline. -/
theorem slots_of_outline {t : Scene} (same : t.outline = s.outline) (r : EntityRef) :
    t.slots r = s.slots r := by
  have outlined (u : Scene) : u.outline.ancestors r = u.ancestors r := by
    rw [ancestors, chain_outline, container?_outline, ancestors]
    exact congrArg (fun limit => u.chain limit _) (count_outline u .graph)
  rw [slots, slots, ← outlined, same, outlined]

/-- Whatever is looked through is there. -/
theorem exists_attrMap?_of_mem {around : Option GraphId} {chain : List GraphId}
    (there : s.holds r) (way : s.LeadsOut around chain)
    (member : slot ∈ .own r :: chain.map (inheritedSlot r)) :
    ∃ map, s.attrMap? slot = some map := by
  rw [← Option.isSome_iff_exists]
  rcases List.mem_cons.mp member with rfl | member
  · rwa [attrMap?, Option.isSome_map]
  · obtain ⟨id, passed, rfl⟩ := List.mem_map.mp member
    obtain ⟨g, present⟩ := exists_graph?_of_holds (holds_of_leadsOut way passed)
    cases r <;> simp [inheritedSlot, attrMap?, entity?, present]

/-- The attribute is sought on the whole way out, and its nearest value counts. A value that is put
into a map changes no attribute but the one it is put in for, and that one exactly if the map is on
the way and none before it has the attribute; then the new value is found. -/
theorem attr?_of_built (built : s.Built) (there : s.holds r) :
    ∃ chain, s.LeadsOut (s.container? r) chain ∧
      let maps := .own r :: chain.map (inheritedSlot r)
      (∀ name, s.attr? r name = maps.findSome? fun slot => s.value? slot name) ∧
      ∀ slot name value,
        (∀ other, (s.insertAttr slot name value).attr? r other ≠ s.attr? r other →
          other = name ∧ s.Decides maps slot name) ∧
        (s.Decides maps slot name → (s.insertAttr slot name value).attr? r name = some value) ∧
        ∀ owner, (s.insertDrawAttr owner name value).attr? r = s.attr? r := by
  have way := built.arranged.leadsOut_ancestors there
  refine ⟨s.ancestors r, way, fun _ => rfl, fun slot name value => ?_⟩
  have after (wanted : String) : (s.insertAttr slot name value).attr? r wanted =
      (s.slots r).findSome? fun near => (s.insertAttr slot name value).value? near wanted := by
    rw [← slots_of_outline (outline_insertAttr s slot name value)]
    rfl
  refine ⟨fun other changed => ?_, fun decides => ?_, fun owner => ?_⟩
  · have same : other = name := by
      by_contra different
      apply changed
      rw [after]
      simp only [value?_insertAttr_of_ne (.inr different)]
      rfl
    subst same
    refine ⟨rfl, by_contra fun hidden => changed ?_⟩
    exact (after other).trans (findSome?_insertAttr_of_not_decides hidden value)
  · obtain ⟨nearer, farther, whole, -⟩ := id decides
    have member : slot ∈ .own r :: (s.ancestors r).map (inheritedSlot r) := by simp [whole]
    obtain ⟨map, stored⟩ := exists_attrMap?_of_mem there way member
    exact (after name).trans (findSome?_insertAttr_of_decides stored decides value)
  · funext wanted
    rw [attr?, slots_of_outline (outline_insertDrawAttr s owner name value)]
    simp only [attrMap?_insertDrawAttr]
    rfl

/-- Defaults for nodes and edges, in the root and in a group with a node. -/
def shades : Scene :=
  let start := (new "G" false .directed).insertAttr (.nodeDefaults root) "color" "blue"
  let grouped := (start.addGraph root "group").1.insertAttr (.edgeDefaults ⟨1⟩) "color" "red"
  (grouped.addNode ⟨1⟩ "a").1

/-- The node takes the color of the root, the group has one for edges only. A color for the nodes
of the group hides the one of the root from then on. -/
theorem attr?_of_built_shades :
    shades.Built ∧ shades.holds (.node ⟨0⟩) ∧
      shades.LeadsOut (some ⟨1⟩) [⟨1⟩, root] ∧
      shades.attr? (.node ⟨0⟩) "color" = some "blue" ∧
      (shades.insertAttr (.nodeDefaults ⟨1⟩) "color" "green").attr? (.node ⟨0⟩) "color" =
        some "green" := by
  have built : shades.Built :=
    .addNode "a" (.insertAttr _ "color" "red" (.addGraph "group" (.insertAttr _ "color" "blue"
      (.new "G" false .directed)) (by decide))) (by decide)
  have there : shades.holds (.node ⟨0⟩) := by decide
  obtain ⟨chain, way, found, after⟩ := attr?_of_built built there
  obtain rfl : chain = [⟨1⟩, root] :=
    way.unique (.within (by decide) (.within (by decide) .outside))
  refine ⟨built, there, way, (found "color").trans (by decide), ?_⟩
  exact (after _ "color" "green").2.1 ⟨[.own (.node ⟨0⟩)], [.nodeDefaults root], rfl, by decide⟩

end Lookups

end XdotViewer.Scene
