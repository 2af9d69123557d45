import XdotViewer.Scene

/-! # Attributes with inheritance

An entity that lacks an attribute takes it from the graphs around it, the nearest first. Graphs
look at the attributes of those graphs, nodes and edges at the defaults for their kind.
-/

namespace XdotViewer.Scene

/-- At most `limit` graphs from `id` outwards. -/
def chain (s : Scene) : Nat → Option GraphId → List GraphId
  | 0, _ => []
  | _, none => []
  | limit + 1, some id => id :: s.chain limit ((s.graph? id).bind Graph.parent)

/-- The graphs around an entity, from the nearest to the root. -/
def ancestors (s : Scene) (r : EntityRef) : List GraphId :=
  s.chain s.graphs.size (s.container? r)

/-- The slot of a graph that entities of a kind inherit from. -/
def inheritedSlot : EntityRef → GraphId → AttrSlot
  | .graph _, id => .own (.graph id)
  | .node _, id => .nodeDefaults id
  | .edge _, id => .edgeDefaults id

/-- The slots in which an attribute is sought, in order. -/
def slots (s : Scene) (r : EntityRef) : List AttrSlot :=
  .own r :: (s.ancestors r).map (inheritedSlot r)

/-- The value of an attribute: the entity's own, or the nearest inherited one. -/
def attr? (s : Scene) (r : EntityRef) (name : String) : Option String :=
  (s.slots r).findSome? fun slot => (s.attrMap? slot).bind fun map => map.get? name

end XdotViewer.Scene
