import XdotViewer.Proofs.Scene.Building
import Mathlib.Data.List.Infix

/-! # What is drawn together

The drawing order of a scene is made of blocks, one inside the other: a graph, then the blocks of
what lies directly in it, in the order of creation. The walk never goes deeper than there are
graphs, and it comes to every entity exactly once.
-/

namespace XdotViewer.Scene

variable {s : Scene} {id : GraphId} {r : EntityRef}

/-- What is drawn with an entity: a graph with everything within it, a node or an edge alone. -/
def block (s : Scene) : EntityRef → List EntityRef
  | .graph id => s.drawOrderFrom s.graphs.size id
  | r => [r]

/-- What lies directly in a graph: subgraphs, nodes and edges, each in the order of creation. -/
def placedIn (s : Scene) (id : GraphId) : List EntityRef :=
  s.placed id .graph ++ s.placed id .node ++ s.placed id .edge

namespace Arranged

private theorem contents_eq_placedIn (arranged : s.Arranged) (id : GraphId) :
    s.contents id = s.placedIn id := by
  rw [contents_eq_listed, arranged.ordered, arranged.ordered, arranged.ordered, placedIn]

private theorem holds_of_container {around : GraphId} (arranged : s.Arranged)
    (inside : s.container? r = some around) : s.holds r ∧ s.holds (.graph around) := by
  have there : s.holds r := holds_iff.mpr (exists_name?_of_container? inside)
  have other : r ≠ .graph root := by
    rintro rfl
    rw [arranged.rooted.2] at inside
    cases inside
  obtain ⟨_, same, beyond⟩ := arranged.contained r there other
  obtain rfl := Option.some.inj (inside.symm.trans same)
  exact ⟨there, beyond⟩

/-- Graphs are older than what they list, so a walk that may go as deep as there are younger graphs
is not cut off. -/
theorem drawOrderFrom_stable (arranged : s.Arranged) {depth more : Nat}
    (there : s.holds (.graph id)) (enough : s.graphs.size ≤ id.index + depth)
    (longer : depth ≤ more) : s.drawOrderFrom more id = s.drawOrderFrom depth id := by
  induction depth generalizing id more with
  | zero =>
    have bound := holds_graph.mp there
    omega
  | succ depth ih =>
    obtain ⟨more, rfl⟩ : ∃ less, more = less + 1 := ⟨more - 1, by omega⟩
    have below : (s.graphsIn id).flatMap (s.drawOrderFrom more) =
        (s.graphsIn id).flatMap (s.drawOrderFrom depth) := by
      apply List.flatMap_congr
      intro child listed
      have inside := arranged.filed.container_of_mem_graphsIn listed
      have younger := arranged.filed.older child id inside
      exact ih (arranged.holds_of_container inside).1 (by omega) (by omega)
    rw [drawOrderFrom, drawOrderFrom, below]

/-- A graph is drawn, and then the blocks of what lies directly in it. -/
theorem block_graph (arranged : s.Arranged) (there : s.holds (.graph id)) :
    s.block (.graph id) = .graph id :: (s.placedIn id).flatMap s.block := by
  have bound := holds_graph.mp there
  have deeper : s.drawOrderFrom (s.graphs.size + 1) id = s.block (.graph id) :=
    arranged.drawOrderFrom_stable there (by omega) (by omega)
  rw [← deeper, drawOrderFrom, ← arranged.contents_eq_placedIn, contents_eq]
  simp only [List.flatMap_append, List.flatMap_map, block, List.cons_append]
  simp only [List.map_eq_flatMap]

private theorem block_infix_block {around : GraphId} (arranged : s.Arranged)
    (inside : s.container? r = some around) : s.block r <:+: s.block (.graph around) := by
  have listed : r ∈ s.placedIn around := by
    rw [← arranged.contents_eq_placedIn, arranged.filed.mem_contents_iff]
    exact inside
  obtain ⟨before, after, whole⟩ := List.append_of_mem listed
  rw [arranged.block_graph (arranged.holds_of_container inside).2, whole, List.flatMap_append,
    List.flatMap_cons]
  exact ⟨.graph around :: before.flatMap s.block, after.flatMap s.block, by simp⟩

/-- What lies within a graph, however deep, has its block inside the block of the graph. -/
theorem block_infix_of_within (arranged : s.Arranged) (within : s.Within id r) :
    s.block r <:+: s.block (.graph id) := by
  induction within with
  | self => exact List.infix_rfl
  | inside around _ outer => exact (arranged.block_infix_block around).trans outer

private theorem mem_block_iff (arranged : s.Arranged) (there : s.holds (.graph id)) :
    r ∈ s.block (.graph id) ↔ s.Within id r := by
  constructor
  · exact arranged.filed.within_of_mem_drawOrderFrom
  · intro within
    have alone : r ∈ s.block r := by
      cases r with
      | graph inner =>
        have present : s.holds (.graph inner) := by
          cases within with
          | self => exact there
          | inside around _ => exact (arranged.holds_of_container around).1
        rw [arranged.block_graph present]
        exact List.mem_cons_self
      | node inner => exact List.mem_singleton.mpr rfl
      | edge inner => exact List.mem_singleton.mpr rfl
    exact (arranged.block_infix_of_within within).subset alone

/-- Every graph lies within the root, by way of older and older graphs around it. -/
theorem within_root_graph (arranged : s.Arranged) (there : s.holds (.graph id)) :
    s.Within root (.graph id) := by
  obtain ⟨index⟩ := id
  induction index using Nat.strongRecOn with
  | _ index ih =>
    by_cases first : (⟨index⟩ : GraphId) = root
    · rw [first]
      exact .self
    · obtain ⟨around, inside, beyond⟩ :=
        arranged.contained _ there fun same => first (EntityRef.graph.inj same)
      exact .inside inside (ih around.index (arranged.filed.older _ _ inside) beyond)

private theorem within_root_iff (arranged : s.Arranged) : s.Within root r ↔ s.holds r := by
  constructor
  · intro within
    cases within with
    | self => exact arranged.rooted.1
    | inside around _ => exact (arranged.holds_of_container around).1
  · intro there
    by_cases first : r = .graph root
    · rw [first]
      exact .self
    · obtain ⟨around, inside, beyond⟩ := arranged.contained r there first
      exact .inside inside (arranged.within_root_graph beyond)

end Arranged

/-- However deep the walk may go, the drawing order of a scene that has been built holds each of its
entities once and nothing else. Everything within a graph stands together in it: the graph, then the
blocks of its subgraphs, its nodes and its edges, each in the order of creation. -/
theorem drawOrder_of_built (built : s.Built) :
    (∀ depth, s.graphs.size ≤ depth → s.drawOrderFrom depth root = s.drawOrder) ∧
    (∀ r, s.drawOrder.count r = if s.holds r then 1 else 0) ∧
    ∀ id, s.holds (.graph id) →
      s.block (.graph id) <:+: s.drawOrder ∧
      (∀ r, r ∈ s.block (.graph id) ↔ s.Within id r) ∧
      s.block (.graph id) = .graph id :: (s.placedIn id).flatMap s.block := by
  have arranged := built.arranged
  have reached {r : EntityRef} : r ∈ s.drawOrder ↔ s.holds r :=
    (arranged.mem_block_iff arranged.rooted.1).trans arranged.within_root_iff
  refine ⟨fun depth enough => ?_, fun r => ?_, fun id there => ⟨?_, fun r => ?_, ?_⟩⟩
  · exact arranged.drawOrderFrom_stable arranged.rooted.1 (Nat.le_add_left _ _) enough
  · rw [arranged.filed.nodup_drawOrder.count]
    simp only [reached]
  · exact arranged.block_infix_of_within (arranged.within_root_graph there)
  · exact arranged.mem_block_iff there
  · exact arranged.block_graph there

/-- Two nodes of one name, the second in a group that is younger than an edge beside it. -/
def twins : Scene :=
  let start := (new "G" false .directed).addNode root "a"
  let joined := start.1.addEdge root "a" "a"
  let grouped := joined.1.addGraph root "group"
  (grouped.1.addNode ⟨1⟩ "a").1

/-- The group and its node come before the older node and edge of the root. -/
theorem drawOrder_of_built_twins :
    twins.Built ∧ twins.holds (.graph ⟨1⟩) ∧
      twins.drawOrder =
        [.graph root, .graph ⟨1⟩, .node ⟨1⟩, .node ⟨0⟩, .edge ⟨0⟩] ∧
      (∀ r, twins.drawOrder.count r = if twins.holds r then 1 else 0) ∧
      twins.block (.graph ⟨1⟩) <:+: twins.drawOrder := by
  have built : twins.Built :=
    .addNode "a" (.addGraph "group" (.addEdge "a" "a" (.addNode "a" (.new "G" false .directed)
      (by decide)) (by decide)) (by decide)) (by decide)
  have there : twins.holds (.graph ⟨1⟩) := by decide
  obtain ⟨-, once, together⟩ := drawOrder_of_built built
  exact ⟨built, there, by decide, once, (together ⟨1⟩ there).1⟩

end XdotViewer.Scene
