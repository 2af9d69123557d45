import XdotViewer.Drawing.Block
import XdotViewer.Scene.DrawOrder

/-! # The draw strings of a scene

Draw attributes can be edited without a change to anything else in a scene: names, attributes,
containers and drawing order stay, and so does all that is looked up or expanded with them. So draw
strings can be replaced in their places.
-/

namespace XdotViewer

/-- The text of a draw attribute of an entity. -/
structure DrawString where
  entity : EntityRef
  name : String
  text : String

/-- An entity with the texts of its draw attributes replaced. -/
def Entity.editStrings (edit : String → String → String) (entity : Entity) : Entity :=
  { entity with
    drawAttrs.entries := entity.drawAttrs.entries.map fun attr => (attr.1, edit attr.1 attr.2)
    drawAttrs.nodup := by
      rw [List.map_map]
      exact entity.drawAttrs.nodup }

/-- An entity with other draw attributes. -/
def Entity.editDrawAttrs (edit : OrderedMap String String → OrderedMap String String)
    (entity : Entity) : Entity :=
  { entity with drawAttrs := edit entity.drawAttrs }

namespace Scene

/-- The draw strings of an entity, in order of insertion. -/
def stringsOf (s : Scene) (entity : EntityRef) : List DrawString :=
  match s.entity? entity with
  | some data => data.drawAttrs.entries.map fun attr => ⟨entity, attr.1, attr.2⟩
  | none => []

/-- All draw strings, in drawing order. -/
def drawStrings (s : Scene) : List DrawString :=
  s.drawOrder.flatMap s.stringsOf

/-- A scene with its draw strings replaced, each by what `edit` makes of it. -/
def editStrings (edit : EntityRef → String → String → String) (s : Scene) : Scene :=
  { s with
    graphs := s.graphs.mapIdx fun i g =>
      { g with entity := g.entity.editStrings (edit (.graph ⟨i⟩)) }
    nodes := s.nodes.mapIdx fun i n =>
      { n with entity := n.entity.editStrings (edit (.node ⟨i⟩)) }
    edges := s.edges.mapIdx fun i e =>
      { e with entity := e.entity.editStrings (edit (.edge ⟨i⟩)) } }

/-- A scene with other draw attributes. -/
def editDrawAttrs (edit : EntityRef → OrderedMap String String → OrderedMap String String)
    (s : Scene) : Scene :=
  { s with
    graphs := s.graphs.mapIdx fun i g =>
      { g with entity := g.entity.editDrawAttrs (edit (.graph ⟨i⟩)) }
    nodes := s.nodes.mapIdx fun i n =>
      { n with entity := n.entity.editDrawAttrs (edit (.node ⟨i⟩)) }
    edges := s.edges.mapIdx fun i e =>
      { e with entity := e.entity.editDrawAttrs (edit (.edge ⟨i⟩)) } }

section Edited

variable (edit : EntityRef → OrderedMap String String → OrderedMap String String) (s : Scene)

section Parts

private theorem graph?_editDrawAttrs (id : GraphId) :
    (s.editDrawAttrs edit).graph? id = (s.graph? id).map fun g =>
      { g with entity := g.entity.editDrawAttrs (edit (.graph id)) } :=
  Array.getElem?_mapIdx

private theorem node?_editDrawAttrs (id : NodeId) :
    (s.editDrawAttrs edit).node? id = (s.node? id).map fun n =>
      { n with entity := n.entity.editDrawAttrs (edit (.node id)) } :=
  Array.getElem?_mapIdx

private theorem edge?_editDrawAttrs (id : EdgeId) :
    (s.editDrawAttrs edit).edge? id = (s.edge? id).map fun e =>
      { e with entity := e.entity.editDrawAttrs (edit (.edge id)) } :=
  Array.getElem?_mapIdx

/-- The entities are the same, with other draw attributes. -/
theorem entity?_editDrawAttrs (r : EntityRef) :
    (s.editDrawAttrs edit).entity? r = (s.entity? r).map (Entity.editDrawAttrs (edit r)) := by
  cases r with
  | graph id => simp only [entity?, graph?_editDrawAttrs, Option.map_map, Function.comp_def]
  | node id => simp only [entity?, node?_editDrawAttrs, Option.map_map, Function.comp_def]
  | edge id => simp only [entity?, edge?_editDrawAttrs, Option.map_map, Function.comp_def]

end Parts

section Lookup

/-- Names do not depend on draw attributes. -/
theorem nameOf_editDrawAttrs (r : EntityRef) : (s.editDrawAttrs edit).nameOf r = s.nameOf r := by
  rw [nameOf, nameOf, entity?_editDrawAttrs, Option.map_map]
  rfl

private theorem parent_editDrawAttrs (id : GraphId) :
    ((s.editDrawAttrs edit).graph? id).bind Graph.parent = (s.graph? id).bind Graph.parent := by
  rw [graph?_editDrawAttrs, Option.bind_map]
  rfl

private theorem container?_editDrawAttrs (r : EntityRef) :
    (s.editDrawAttrs edit).container? r = s.container? r := by
  cases r with
  | graph id => exact parent_editDrawAttrs edit s id
  | node id =>
    simp only [container?, node?_editDrawAttrs, Option.map_map]
    rfl
  | edge id =>
    simp only [container?, edge?_editDrawAttrs, Option.map_map]
    rfl

private theorem chain_editDrawAttrs (limit : Nat) (id : Option GraphId) :
    (s.editDrawAttrs edit).chain limit id = s.chain limit id := by
  induction limit generalizing id with
  | zero => rfl
  | succ limit ih =>
    cases id with
    | none => rfl
    | some id => rw [chain, chain, parent_editDrawAttrs, ih]

private theorem slots_editDrawAttrs (r : EntityRef) :
    (s.editDrawAttrs edit).slots r = s.slots r := by
  have size : (s.editDrawAttrs edit).graphs.size = s.graphs.size := Array.size_mapIdx
  rw [slots, slots, ancestors, ancestors, container?_editDrawAttrs, chain_editDrawAttrs, size]

private theorem attrMap?_editDrawAttrs (slot : AttrSlot) :
    (s.editDrawAttrs edit).attrMap? slot = s.attrMap? slot := by
  cases slot with
  | own r =>
    simp only [attrMap?, entity?_editDrawAttrs, Option.map_map]
    rfl
  | nodeDefaults id =>
    simp only [attrMap?, graph?_editDrawAttrs, Option.map_map]
    rfl
  | edgeDefaults id =>
    simp only [attrMap?, graph?_editDrawAttrs, Option.map_map]
    rfl

/-- What is looked up does not depend on draw attributes. -/
theorem attr?_editDrawAttrs (r : EntityRef) (name : String) :
    (s.editDrawAttrs edit).attr? r name = s.attr? r name := by
  simp only [attr?, slots_editDrawAttrs, attrMap?_editDrawAttrs]

private theorem graphName_editDrawAttrs (r : EntityRef) :
    (s.editDrawAttrs edit).graphName r = s.graphName r := by
  have nearest : (s.editDrawAttrs edit).nearestGraph? r = s.nearestGraph? r := by
    cases r with
    | graph id => rfl
    | node id => exact container?_editDrawAttrs edit s (.node id)
    | edge id => exact container?_editDrawAttrs edit s (.edge id)
  simp only [graphName, nearest, graph?_editDrawAttrs, Option.map_map]
  rfl

private theorem nameMeaning_editDrawAttrs (r : EntityRef) :
    (s.editDrawAttrs edit).nameMeaning r = s.nameMeaning r := by
  funext code
  have tail (id : EdgeId) :
      ((s.editDrawAttrs edit).edge? id).map Edge.tail = (s.edge? id).map Edge.tail := by
    rw [edge?_editDrawAttrs, Option.map_map]
    rfl
  have head (id : EdgeId) :
      ((s.editDrawAttrs edit).edge? id).map Edge.head = (s.edge? id).map Edge.head := by
    rw [edge?_editDrawAttrs, Option.map_map]
    rfl
  unfold nameMeaning
  simp only [graphName_editDrawAttrs, nameOf_editDrawAttrs, tail, head]

/-- What is expanded does not depend on draw attributes. -/
theorem attrExpanded?_editDrawAttrs (r : EntityRef) (name : String) :
    (s.editDrawAttrs edit).attrExpanded? r name = s.attrExpanded? r name := by
  have label : (s.editDrawAttrs edit).labelText r = s.labelText r := by
    rw [labelText, labelText, attr?_editDrawAttrs, nameMeaning_editDrawAttrs]
  have meaning : (s.editDrawAttrs edit).meaning r = s.meaning r := by
    funext code
    rw [Scene.meaning, Scene.meaning, label, nameMeaning_editDrawAttrs]
  have expand : (s.editDrawAttrs edit).expand r = s.expand r := by
    funext value
    rw [Scene.expand, Scene.expand, meaning]
  rw [attrExpanded?, attrExpanded?, attr?_editDrawAttrs, expand]

end Lookup

section Order

private theorem graphsIn_editDrawAttrs (id : GraphId) :
    (s.editDrawAttrs edit).graphsIn id = s.graphsIn id := by
  rw [graphsIn, graphsIn, graph?_editDrawAttrs, Option.map_map]
  rfl

private theorem nodesIn_editDrawAttrs (id : GraphId) :
    (s.editDrawAttrs edit).nodesIn id = s.nodesIn id := by
  rw [nodesIn, nodesIn, graph?_editDrawAttrs, Option.map_map]
  rfl

private theorem edgesIn_editDrawAttrs (id : GraphId) :
    (s.editDrawAttrs edit).edgesIn id = s.edgesIn id := by
  rw [edgesIn, edgesIn, graph?_editDrawAttrs, Option.map_map]
  rfl

private theorem drawOrderFrom_editDrawAttrs (depth : Nat) :
    (s.editDrawAttrs edit).drawOrderFrom depth = s.drawOrderFrom depth := by
  induction depth with
  | zero => rfl
  | succ depth ih =>
    funext id
    rw [drawOrderFrom, drawOrderFrom, ih, graphsIn_editDrawAttrs, nodesIn_editDrawAttrs,
      edgesIn_editDrawAttrs]

/-- The drawing order does not depend on draw attributes. -/
theorem drawOrder_editDrawAttrs : (s.editDrawAttrs edit).drawOrder = s.drawOrder := by
  have size : (s.editDrawAttrs edit).graphs.size = s.graphs.size := Array.size_mapIdx
  rw [drawOrder, drawOrder, drawOrderFrom_editDrawAttrs, size]

end Order

end Edited

section Replaced

variable (edit : EntityRef → String → String → String) (s : Scene)

/-- Draw attributes with their texts replaced. -/
def editTexts (entity : EntityRef) (attrs : OrderedMap String String) :
    OrderedMap String String where
  entries := attrs.entries.map fun attr => (attr.1, edit entity attr.1 attr.2)
  nodup := by
    rw [List.map_map]
    exact attrs.nodup

private theorem editStrings_eq : s.editStrings edit = s.editDrawAttrs (editTexts edit) := rfl

/-- Editing changes the texts of the draw strings and nothing about where they stand. -/
theorem drawStrings_editStrings :
    (s.editStrings edit).drawStrings = s.drawStrings.map fun string =>
      { string with text := edit string.entity string.name string.text } := by
  rw [editStrings_eq, drawStrings, drawStrings, drawOrder_editDrawAttrs, List.map_flatMap]
  congr 1
  funext entity
  rw [stringsOf, stringsOf, entity?_editDrawAttrs]
  cases s.entity? entity with
  | none => rfl
  | some data =>
    simp only [Option.map_some, Entity.editDrawAttrs, editTexts, List.map_map]
    rfl

end Replaced

end Scene
end XdotViewer
