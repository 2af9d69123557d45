import XdotViewer.Proofs.Document.Containment

/-! # What the root graph decides

The metadata of a document and the attributes of its root graph come from the statements directly
inside the root graph. Nothing inside a subgraph reaches them, so the bodies of subgraphs can be
exchanged for others without a difference to either.
-/

namespace XdotViewer

/-- Everything that a graph stores of attributes. -/
structure GraphAttrs where
  own : AttrMap
  nodeDefaults : AttrMap
  edgeDefaults : AttrMap
  drawAttrs : AttrMap

/-- What a graph stores after an attribute has been put into one of its slots. -/
def GraphAttrs.insert (stored : GraphAttrs) (slot : AttrSlot) (name value : String) :
    GraphAttrs :=
  match slot with
  | .own _ => { stored with own := stored.own.insert name value }
  | .nodeDefaults _ => { stored with nodeDefaults := stored.nodeDefaults.insert name value }
  | .edgeDefaults _ => { stored with edgeDefaults := stored.edgeDefaults.insert name value }

def Graph.stored (g : Graph) : GraphAttrs :=
  ⟨g.entity.attrs, g.nodeDefaults, g.edgeDefaults, g.entity.drawAttrs⟩

namespace Scene

variable {s t : Scene} {id : GraphId}

def stored? (s : Scene) (id : GraphId) : Option GraphAttrs :=
  (s.graph? id).map Graph.stored

section Stored

private theorem stored?_modifyGraph_of_ne {other : GraphId} (different : other ≠ id)
    (f : Graph → Graph) : (s.modifyGraph other f).stored? id = s.stored? id :=
  map_graph?_modifyGraph fun same => absurd same.symm different

private theorem stored?_listing (container : GraphId) (r : EntityRef) :
    (s.modifyGraph container (.listing r)).stored? id = s.stored? id :=
  map_graph?_listing (fun g => by cases r <;> rfl) id

/-- A graph that is there keeps its attributes when another one is added. -/
theorem stored?_addGraph {traits : Bool × GraphKind} (known : s.traits? id = some traits)
    (parent : GraphId) (name : String) :
    (s.addGraph parent name).1.stored? id = s.stored? id := by
  have old : id ≠ ⟨s.graphs.size⟩ := by
    rintro rfl
    rw [traits?, graph?_size] at known
    cases known
  refine (stored?_listing parent (.graph ⟨s.graphs.size⟩)).trans ?_
  rw [stored?, graph?_push, if_neg old, stored?]

/-- Nodes change no attributes of graphs. -/
theorem stored?_ensureNode (container : GraphId) (name : String) :
    (s.ensureNode container name).1.stored? id = s.stored? id := by
  unfold ensureNode
  split
  · rfl
  · exact stored?_listing container (.node ⟨s.nodes.size⟩)

/-- Edges change no attributes of graphs. -/
theorem stored?_addEdge (container : GraphId) (tail head : String) :
    (s.addEdge container tail head).1.stored? id = s.stored? id :=
  stored?_listing container (.edge ⟨s.edges.size⟩)

private theorem stored?_modifyEntity_of_ne {r : EntityRef} (different : r ≠ .graph id)
    (f : Entity → Entity) : (s.modifyEntity r f).stored? id = s.stored? id := by
  cases r with
  | graph other => exact stored?_modifyGraph_of_ne (mt (congrArg _) different) _
  | node other => rfl
  | edge other => rfl

private theorem stored?_insertDrawAttr_of_ne {r : EntityRef} (different : r ≠ .graph id)
    (name value : String) : (s.insertDrawAttr r name value).stored? id = s.stored? id :=
  stored?_modifyEntity_of_ne different _

private theorem stored?_insertDrawAttr (name value : String) :
    (s.insertDrawAttr (.graph id) name value).stored? id =
      (s.stored? id).map fun stored =>
        { stored with drawAttrs := stored.drawAttrs.insert name value } := by
  rw [stored?, insertDrawAttr, modifyEntity, graph?_modifyGraph, stored?]
  simp [Function.comp_def, Graph.stored]

/-- An attribute is stored with the owner of its slot and nowhere else. -/
theorem stored?_insertAttr_of_ne {slot : AttrSlot} (different : slot.owner ≠ .graph id)
    (name value : String) : (s.insertAttr slot name value).stored? id = s.stored? id := by
  cases slot with
  | own r => exact stored?_modifyEntity_of_ne different _
  | nodeDefaults other => exact stored?_modifyGraph_of_ne (mt (congrArg _) different) _
  | edgeDefaults other => exact stored?_modifyGraph_of_ne (mt (congrArg _) different) _

private theorem stored?_insertAttr {slot : AttrSlot} (owned : slot.owner = .graph id)
    (name value : String) : (s.insertAttr slot name value).stored? id =
      (s.stored? id).map fun stored => stored.insert slot name value := by
  cases slot with
  | own r =>
    obtain rfl : r = .graph id := owned
    rw [stored?, insertAttr, modifyEntity, graph?_modifyGraph, stored?]
    simp [Function.comp_def, Graph.stored, GraphAttrs.insert]
  | nodeDefaults other =>
    obtain rfl := EntityRef.graph.inj owned
    rw [stored?, insertAttr, graph?_modifyGraph, stored?]
    simp [Function.comp_def, Graph.stored, GraphAttrs.insert]
  | edgeDefaults other =>
    obtain rfl := EntityRef.graph.inj owned
    rw [stored?, insertAttr, graph?_modifyGraph, stored?]
    simp [Function.comp_def, Graph.stored, GraphAttrs.insert]

/-- The root inherits nothing: an attribute of it is its own. -/
theorem attr?_eq_of_outermost (outermost : s.container? (.graph id) = none) (name : String) :
    s.attr? (.graph id) name = (s.stored? id).bind fun stored => stored.own.get? name := by
  have alone : s.ancestors (.graph id) = [] := by
    rw [ancestors, outermost]
    cases s.graphs.size <;> rfl
  rw [attr?, slots, alone, stored?]
  cases found : s.graph? id with
  | none => simp [attrMap?, entity?, found]
  | some g => simp [attrMap?, entity?, found, Graph.stored]

end Stored
end Scene

namespace Assembly

variable {palettes : Palettes} {a b c : Assembly} {strict : Bool} {kind : GraphKind}

/-- Two documents under construction have the same metadata, and their root graphs store the same
attributes. -/
structure SameRoot (a b : Assembly) : Prop where
  metadata : a.metadata = b.metadata
  stored : a.scene.stored? Scene.root = b.scene.stored? Scene.root

/-- Nothing is around the root graph. -/
def Rooted (a : Assembly) : Prop :=
  a.scene.container? (.graph Scene.root) = none

/-- A sound assembly has a root. -/
theorem Sound.toRooted (sound : a.Sound strict kind) : a.Rooted :=
  sound.wellFormed.root.2

namespace SameRoot

theorem refl (a : Assembly) : a.SameRoot a :=
  ⟨rfl, rfl⟩

theorem symm (same : a.SameRoot b) : b.SameRoot a :=
  ⟨same.metadata.symm, same.stored.symm⟩

theorem trans (first : a.SameRoot b) (second : b.SameRoot c) : a.SameRoot c :=
  ⟨first.metadata.trans second.metadata, first.stored.trans second.stored⟩

end SameRoot

section Attributes

variable {slot : AttrSlot}

private theorem Rooted.setAttr (rooted : a.Rooted) (slot : AttrSlot) (attr : String × String) :
    (setAttr palettes slot a attr).Rooted := by
  rw [Rooted, ← Scene.container?_outline, outline_setAttr, Scene.container?_outline]
  exact rooted

/-- An attribute of anything but the root graph leaves the root graph alone. -/
theorem sameRoot_setAttr (other : slot.owner ≠ .graph Scene.root) (attr : String × String) :
    a.SameRoot (setAttr palettes slot a attr) := by
  have outside : slot ≠ .own (.graph Scene.root) := by
    rintro rfl
    exact other rfl
  unfold setAttr
  simp only [if_neg outside]
  split
  · exact ⟨rfl, (Scene.stored?_insertDrawAttr_of_ne other _ _).symm⟩
  · exact ⟨rfl, (Scene.stored?_insertAttr_of_ne other _ _).symm⟩

private theorem SameRoot.updateMetadata (same : a.SameRoot b) (left : a.Rooted) (right : b.Rooted)
    (name value : String) :
    (a.updateMetadata palettes name value).SameRoot (b.updateMetadata palettes name value) := by
  have scheme : a.scene.attr? (.graph Scene.root) "colorscheme" =
      b.scene.attr? (.graph Scene.root) "colorscheme" := by
    rw [Scene.attr?_eq_of_outermost left, Scene.attr?_eq_of_outermost right, same.stored]
  unfold Assembly.updateMetadata
  rw [scheme, same.metadata]
  exact ⟨rfl, same.stored⟩

private theorem SameRoot.insertAttr (same : a.SameRoot b) (owned : slot.owner = .graph Scene.root)
    (name value : String) :
    SameRoot { a with scene := a.scene.insertAttr slot name value }
      { b with scene := b.scene.insertAttr slot name value } := by
  refine ⟨same.metadata, ?_⟩
  rw [Scene.stored?_insertAttr owned, Scene.stored?_insertAttr owned, same.stored]

private theorem SameRoot.setAttr (same : a.SameRoot b) (left : a.Rooted) (right : b.Rooted)
    (slot : AttrSlot) (attr : String × String) :
    (setAttr palettes slot a attr).SameRoot (setAttr palettes slot b attr) := by
  by_cases owned : slot.owner = .graph Scene.root
  · unfold Assembly.setAttr
    simp only
    split
    · refine ⟨same.metadata, ?_⟩
      rw [owned, Scene.stored?_insertDrawAttr, Scene.stored?_insertDrawAttr, same.stored]
    · split
      · exact (same.updateMetadata left right _ _).insertAttr owned _ _
      · exact same.insertAttr owned _ _
  · exact ((sameRoot_setAttr owned attr).symm.trans same).trans (sameRoot_setAttr owned attr)

private theorem sameRoot_applyList? (other : slot.owner ≠ .graph Scene.root)
    (list : Option (List Char)) : a.SameRoot (a.applyList? palettes slot list) := by
  have stores (attrs : List (String × String)) :
      a.SameRoot (attrs.foldl (setAttr palettes slot) a) := by
    induction attrs generalizing a with
    | nil => exact .refl a
    | cons attr rest ih => exact (sameRoot_setAttr other attr).trans ih
  cases list with
  | none => exact .refl a
  | some list =>
    unfold applyList? applyList
    simp only
    split
    · exact stores _
    · exact ⟨(stores _).metadata, (stores _).stored⟩

private theorem SameRoot.applyList? (same : a.SameRoot b) (left : a.Rooted) (right : b.Rooted)
    (slot : AttrSlot) (list : Option (List Char)) :
    (a.applyList? palettes slot list).SameRoot (b.applyList? palettes slot list) := by
  have stores (attrs : List (String × String)) :
      (attrs.foldl (Assembly.setAttr palettes slot) a).SameRoot
        (attrs.foldl (Assembly.setAttr palettes slot) b) := by
    induction attrs generalizing a b with
    | nil => exact same
    | cons attr rest ih =>
      exact ih (same.setAttr left right slot attr) (left.setAttr slot attr)
        (right.setAttr slot attr)
  cases list with
  | none => exact same
  | some list =>
    unfold Assembly.applyList? applyList
    simp only
    split
    · exact stores _
    · exact ⟨(stores _).metadata, (stores _).stored⟩

end Attributes

section Statements

variable {container : GraphId}

/-- Opening a subgraph leaves the root as it is. -/
theorem sameRoot_subgraph (sound : a.Sound strict kind) (name : String) :
    a.SameRoot (a.perform palettes container (.subgraph name)) :=
  ⟨rfl, (Scene.stored?_addGraph sound.wellFormed.root.1 container name).symm⟩

/-- The attributes of a new entity come after the scene has grown. -/
theorem sameRoot_grown {scene : Scene} {slot : AttrSlot}
    (kept : scene.stored? Scene.root = a.scene.stored? Scene.root)
    (other : slot.owner ≠ .graph Scene.root) (list : Option (List Char)) :
    a.SameRoot (({ a with scene } : Assembly).applyList? palettes slot list) := by
  have grown : a.SameRoot { a with scene } := ⟨rfl, kept.symm⟩
  exact grown.trans (sameRoot_applyList? other list)

/-- An edge leaves the root as it is. -/
theorem sameRoot_edge (tail head : String) (list : Option (List Char)) :
    a.SameRoot (a.perform palettes container (.edge tail head list)) :=
  sameRoot_grown ((Scene.stored?_addEdge container tail head).trans
    ((Scene.stored?_ensureNode container head).trans
      (Scene.stored?_ensureNode container tail))) (by nofun) list

/-- A node leaves the root as it is. -/
theorem sameRoot_node (name : String) (list : Option (List Char)) :
    a.SameRoot (a.perform palettes container (.attributes (.node name) list)) :=
  sameRoot_grown (Scene.stored?_ensureNode container name) (by nofun) list

/-- A statement inside a subgraph leaves the root graph alone. -/
theorem sameRoot_perform (sound : a.Sound strict kind) (inside : container ≠ Scene.root)
    (statement : Statement) : a.SameRoot (a.perform palettes container statement) := by
  have other (slot : AttrSlot) (owned : slot.owner = .graph container) :
      slot.owner ≠ .graph Scene.root := by
    rw [owned]
    exact fun same => inside (EntityRef.graph.inj same)
  cases statement with
  | close => exact ⟨rfl, rfl⟩
  | subgraph name => exact sameRoot_subgraph sound name
  | edge tail head list => exact sameRoot_edge tail head list
  | attributes subject list =>
    cases subject with
    | graph => exact sameRoot_applyList? (other (.own (.graph container)) rfl) list
    | nodeDefaults => exact sameRoot_applyList? (other (.nodeDefaults container) rfl) list
    | edgeDefaults => exact sameRoot_applyList? (other (.edgeDefaults container) rfl) list
    | node name => exact sameRoot_node name list
  | assign name value => exact sameRoot_setAttr (other (.own (.graph container)) rfl) (name, value)

/-- A statement has the same effect on root graphs that are the same. -/
theorem SameRoot.perform (same : a.SameRoot b) (left : a.Sound strict kind)
    (right : b.Sound strict kind) (statement : Statement) :
    (a.perform palettes Scene.root statement).SameRoot
      (b.perform palettes Scene.root statement) := by
  -- Whatever makes a new entity leaves the root graph of either document alone.
  have apart {after after' : Assembly} (first : a.SameRoot after) (second : b.SameRoot after') :
      after.SameRoot after' := (first.symm.trans same).trans second
  cases statement with
  | close => exact ⟨same.metadata, same.stored⟩
  | subgraph name => exact apart (sameRoot_subgraph left name) (sameRoot_subgraph right name)
  | edge tail head list => exact apart (sameRoot_edge tail head list) (sameRoot_edge tail head list)
  | attributes subject list =>
    cases subject with
    | graph => exact same.applyList? left.toRooted right.toRooted _ list
    | nodeDefaults => exact same.applyList? left.toRooted right.toRooted _ list
    | edgeDefaults => exact same.applyList? left.toRooted right.toRooted _ list
    | node name => exact apart (sameRoot_node name list) (sameRoot_node name list)
  | assign name value => exact same.setAttr left.toRooted right.toRooted _ (name, value)

end Statements

end Assembly
end XdotViewer
