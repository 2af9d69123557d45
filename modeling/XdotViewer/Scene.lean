import XdotViewer.OrderedMap

/-! # Scenes

A scene holds the graphs, nodes and edges of one drawing in the order of their creation. Each
refers to the graph that contains it, and each graph lists what it contains; the root graph comes
first and has no container. Nodes are found by an index of their names.
-/

namespace XdotViewer

abbrev AttrMap := OrderedMap String String

structure GraphId where
  index : Nat
deriving DecidableEq, Repr

structure NodeId where
  index : Nat
deriving DecidableEq, Repr

structure EdgeId where
  index : Nat
deriving DecidableEq, Repr

inductive EntityRef where
  | graph (id : GraphId)
  | node (id : NodeId)
  | edge (id : EdgeId)
deriving DecidableEq, Repr

/-- What graphs, nodes and edges have in common. -/
structure Entity where
  name : String
  attrs : AttrMap
  /-- Draw instructions by the name of their attribute. -/
  drawAttrs : AttrMap

def Entity.named (name : String) : Entity :=
  ⟨name, ∅, ∅⟩

/-- Whether edges have a direction. -/
inductive GraphKind where
  | directed
  | undirected
deriving DecidableEq, Repr

namespace GraphKind

def edgeOp : GraphKind → String
  | directed => "->"
  | undirected => "--"

def key : GraphKind → String
  | directed => "directed"
  | undirected => "undirected"

end GraphKind

structure Graph where
  entity : Entity
  /-- The graph around this one. -/
  parent : Option GraphId
  strict : Bool
  kind : GraphKind
  /-- Attributes that nodes inside inherit. -/
  nodeDefaults : AttrMap
  /-- Attributes that edges inside inherit. -/
  edgeDefaults : AttrMap
  subgraphs : Array GraphId
  nodes : Array NodeId
  edges : Array EdgeId

/-- A graph with nothing in it. -/
def Graph.bare (name : String) (parent : Option GraphId) (strict : Bool) (kind : GraphKind) :
    Graph :=
  ⟨.named name, parent, strict, kind, ∅, ∅, #[], #[], #[]⟩

structure Node where
  entity : Entity
  container : GraphId

structure Edge where
  entity : Entity
  container : GraphId
  tail : String
  head : String

structure Scene where
  graphs : Array Graph
  nodes : Array Node
  edges : Array Edge
  /-- The newest node of each name. -/
  nodeIndex : OrderedMap String NodeId

namespace Scene

def root : GraphId := ⟨0⟩

/-- The scene of a root graph with nothing in it. -/
def new (name : String) (strict : Bool) (kind : GraphKind) : Scene where
  graphs := #[.bare name none strict kind]
  nodes := #[]
  edges := #[]
  nodeIndex := ∅

def graph? (s : Scene) (id : GraphId) : Option Graph :=
  s.graphs[id.index]?

def node? (s : Scene) (id : NodeId) : Option Node :=
  s.nodes[id.index]?

def edge? (s : Scene) (id : EdgeId) : Option Edge :=
  s.edges[id.index]?

def modifyGraph (s : Scene) (id : GraphId) (f : Graph → Graph) : Scene :=
  { s with graphs := s.graphs.modify id.index f }

/-- Adds a graph inside another, from which it takes strictness and kind. -/
def addGraph (s : Scene) (parent : GraphId) (name : String) : Scene × GraphId :=
  let id : GraphId := ⟨s.graphs.size⟩
  let strict := (s.graph? parent).any Graph.strict
  let kind := ((s.graph? parent).map Graph.kind).getD .directed
  let grown := { s with graphs := s.graphs.push (.bare name (some parent) strict kind) }
  (grown.modifyGraph parent fun g => { g with subgraphs := g.subgraphs.push id }, id)

/-- Adds a node whether or not its name is taken; the name then finds the new node. -/
def addNode (s : Scene) (container : GraphId) (name : String) : Scene × NodeId :=
  let id : NodeId := ⟨s.nodes.size⟩
  let grown :=
    { s with
      nodes := s.nodes.push ⟨.named name, container⟩
      nodeIndex := s.nodeIndex.insert name id }
  (grown.modifyGraph container fun g => { g with nodes := g.nodes.push id }, id)

/-- The newest node with a name. -/
def findNode (s : Scene) (name : String) : Option NodeId :=
  s.nodeIndex.get? name

/-- The node with a name, created in a graph if there is none yet. -/
def ensureNode (s : Scene) (container : GraphId) (name : String) : Scene × NodeId :=
  match s.findNode name with
  | some id => (s, id)
  | none => s.addNode container name

/-- Adds an edge; its name joins both ends with the edge operator of its graph. -/
def addEdge (s : Scene) (container : GraphId) (tail head : String) : Scene × EdgeId :=
  let id : EdgeId := ⟨s.edges.size⟩
  let kind := ((s.graph? container).map Graph.kind).getD .directed
  let name := tail ++ kind.edgeOp ++ head
  let grown := { s with edges := s.edges.push ⟨.named name, container, tail, head⟩ }
  (grown.modifyGraph container fun g => { g with edges := g.edges.push id }, id)

def entity? (s : Scene) : EntityRef → Option Entity
  | .graph id => (s.graph? id).map Graph.entity
  | .node id => (s.node? id).map Node.entity
  | .edge id => (s.edge? id).map Edge.entity

/-- The name of an entity, empty where there is none. -/
def nameOf (s : Scene) (r : EntityRef) : String :=
  ((s.entity? r).map Entity.name).getD ""

/-- The graph around an entity. -/
def container? (s : Scene) : EntityRef → Option GraphId
  | .graph id => (s.graph? id).bind Graph.parent
  | .node id => (s.node? id).map Node.container
  | .edge id => (s.edge? id).map Edge.container

/-- The nearest graph of an entity; a graph's is itself. -/
def nearestGraph? (s : Scene) : EntityRef → Option GraphId
  | .graph id => some id
  | r => s.container? r

def modifyEntity (s : Scene) (r : EntityRef) (f : Entity → Entity) : Scene :=
  match r with
  | .graph id => s.modifyGraph id fun g => { g with entity := f g.entity }
  | .node id =>
    { s with nodes := s.nodes.modify id.index fun n => { n with entity := f n.entity } }
  | .edge id =>
    { s with edges := s.edges.modify id.index fun e => { e with entity := f e.entity } }

end Scene

/-- A map that attributes are stored in. -/
inductive AttrSlot where
  | own (r : EntityRef)
  | nodeDefaults (id : GraphId)
  | edgeDefaults (id : GraphId)
deriving DecidableEq, Repr

/-- The entity that a map belongs to. -/
def AttrSlot.owner : AttrSlot → EntityRef
  | own r => r
  | nodeDefaults id => .graph id
  | edgeDefaults id => .graph id

namespace Scene

/-- The map in a slot. -/
def attrMap? (s : Scene) : AttrSlot → Option AttrMap
  | .own r => (s.entity? r).map Entity.attrs
  | .nodeDefaults id => (s.graph? id).map Graph.nodeDefaults
  | .edgeDefaults id => (s.graph? id).map Graph.edgeDefaults

def insertAttr (s : Scene) (slot : AttrSlot) (name value : String) : Scene :=
  match slot with
  | .own r => s.modifyEntity r fun e => { e with attrs := e.attrs.insert name value }
  | .nodeDefaults id =>
    s.modifyGraph id fun g => { g with nodeDefaults := g.nodeDefaults.insert name value }
  | .edgeDefaults id =>
    s.modifyGraph id fun g => { g with edgeDefaults := g.edgeDefaults.insert name value }

def insertDrawAttr (s : Scene) (r : EntityRef) (name value : String) : Scene :=
  s.modifyEntity r fun e => { e with drawAttrs := e.drawAttrs.insert name value }

end Scene
end XdotViewer
