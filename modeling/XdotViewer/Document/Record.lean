import XdotViewer.Document
import XdotViewer.Json
import XdotViewer.Scene.DrawOrder

/-! # Documents as data -/

namespace XdotViewer

def Diagnostic.toJson (d : Diagnostic) : Json :=
  .obj [("kind", .str d.kind.key), ("message", .str d.message)]

namespace Scene

def attrsToJson (map : AttrMap) : Json :=
  .obj (map.entries.map fun (name, value) => (name, .str value))

def indexToJson (id : Option GraphId) : Json :=
  match id with
  | some id => .int id.index
  | none => .null

def indicesToJson (indices : List Nat) : Json :=
  .arr (indices.map fun (i : Nat) => .int i)

/-- What all entities have in common, with the graphs around them. -/
def entityFields (s : Scene) (r : EntityRef) (entity : Entity) : List (String × Json) :=
  [("name", .str entity.name), ("attrs", attrsToJson entity.attrs),
   ("drawAttrs", attrsToJson entity.drawAttrs), ("parentGraph", indexToJson (s.container? r)),
   ("immediateGraph", indexToJson (s.nearestGraph? r))]

def graphToJson (s : Scene) (index : Nat) (graph : Graph) : Json :=
  .obj (s.entityFields (.graph ⟨index⟩) graph.entity ++
    [("strict", .bool graph.strict), ("kind", .str graph.kind.key),
     ("nodeAttrs", attrsToJson graph.nodeDefaults), ("edgeAttrs", attrsToJson graph.edgeDefaults),
     ("subgraphs", indicesToJson (graph.subgraphs.toList.map GraphId.index)),
     ("nodes", indicesToJson (graph.nodes.toList.map NodeId.index)),
     ("edges", indicesToJson (graph.edges.toList.map EdgeId.index))])

def nodeToJson (s : Scene) (index : Nat) (node : Node) : Json :=
  .obj (s.entityFields (.node ⟨index⟩) node.entity)

def edgeToJson (s : Scene) (index : Nat) (edge : Edge) : Json :=
  .obj (s.entityFields (.edge ⟨index⟩) edge.entity ++
    [("tail", .str edge.tail), ("head", .str edge.head)])

def toJson (s : Scene) : Json :=
  .obj [("graphs", .arr (s.graphs.toList.mapIdx s.graphToJson)),
    ("nodes", .arr (s.nodes.toList.mapIdx s.nodeToJson)),
    ("edges", .arr (s.edges.toList.mapIdx s.edgeToJson))]

end Scene

def Metadata.toJson (metadata : Metadata) : Json :=
  let length (value : Option Float) : Json := (value.map Json.float).getD .null
  .obj [("width", .float metadata.width), ("height", .float metadata.height),
    ("dpi", .float metadata.dpi), ("bgcolor", .str metadata.background.canvasText),
    ("maxWidth", length metadata.maxWidth), ("maxHeight", length metadata.maxHeight),
    ("bbEnlarge", .bool metadata.enlarge), ("xdotVersion", .str metadata.version)]

def Document.toJson (document : Document) : Json :=
  .obj [("scene", document.scene.toJson), ("meta", document.metadata.toJson),
    ("diagnostics", .arr (document.diagnostics.map Diagnostic.toJson))]

end XdotViewer
