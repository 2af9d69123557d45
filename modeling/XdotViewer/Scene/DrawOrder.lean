import XdotViewer.Scene

/-! # Drawing order

A graph is drawn before what it contains: first its subgraphs, then its nodes, then its edges, each
in the order of creation.
-/

namespace XdotViewer.Scene

/-- The graphs directly inside a graph. -/
def graphsIn (s : Scene) (id : GraphId) : List GraphId :=
  ((s.graph? id).map fun g => g.subgraphs.toList).getD []

/-- The nodes directly inside a graph. -/
def nodesIn (s : Scene) (id : GraphId) : List NodeId :=
  ((s.graph? id).map fun g => g.nodes.toList).getD []

/-- The edges directly inside a graph. -/
def edgesIn (s : Scene) (id : GraphId) : List EdgeId :=
  ((s.graph? id).map fun g => g.edges.toList).getD []

/-- A graph and what it contains, down to `depth` levels. -/
def drawOrderFrom (s : Scene) : Nat → GraphId → List EntityRef
  | 0, _ => []
  | depth + 1, id =>
    .graph id :: (s.graphsIn id).flatMap (s.drawOrderFrom depth) ++
      (s.nodesIn id).map .node ++ (s.edgesIn id).map .edge

/-- All entities in drawing order; no graph lies deeper than there are graphs. -/
def drawOrder (s : Scene) : List EntityRef :=
  s.drawOrderFrom s.graphs.size root

end XdotViewer.Scene
