import XdotViewer.Proofs.Scene.WellFormed
import XdotViewer.Scene.DrawOrder
import Mathlib.Data.List.Nodup

/-! # What is drawn with a graph

Everything that is drawn with a graph lies within it, and graphs that lie side by side have nothing
in common. So a scene whose graphs list what lies in them, each of it once, draws no entity twice.
-/

namespace XdotViewer.Scene

/-- Graphs lie in older ones, and what lies in a graph is listed there once and nowhere else. -/
structure Filed (s : Scene) : Prop where
  older : ∀ child parent, s.container? (.graph child) = some parent → parent.index < child.index
  listed : ∀ id r, (s.contents id).count r = if s.container? r = some id then 1 else 0

/-- The entity is the graph itself, or lies in it, directly or in a graph within it. -/
inductive Within (s : Scene) (id : GraphId) : EntityRef → Prop
  | self : s.Within id (.graph id)
  | inside {r : EntityRef} {around : GraphId} :
    s.container? r = some around → s.Within id (.graph around) → s.Within id r

variable {s : Scene} {id first second : GraphId} {r : EntityRef}

/-- In a well-formed scene every entity is filed with its container. -/
theorem WellFormed.toFiled {strict : Bool} {kind : GraphKind} (valid : s.WellFormed strict kind) :
    s.Filed where
  older := by
    intro child parent inside
    obtain ⟨g, found, -⟩ := Option.bind_eq_some_iff.mp inside
    have known : s.traits? child = some (g.strict, g.kind) := by simp [traits?, found]
    have other : child ≠ Scene.root := by
      rintro rfl
      rw [valid.root.2] at inside
      cases inside
    obtain ⟨around, same, older⟩ := valid.nested child _ known other
    rw [inside] at same
    exact Option.some.inj same ▸ older
  listed := valid.filed

theorem contents_eq (s : Scene) (id : GraphId) :
    s.contents id =
      (s.graphsIn id).map .graph ++ (s.nodesIn id).map .node ++ (s.edgesIn id).map .edge := by
  unfold contents graphsIn nodesIn edgesIn
  cases s.graph? id with
  | none => rfl
  | some g => rfl

namespace Within

private theorem trans (outer : s.Within id (.graph first)) (inner : s.Within first r) :
    s.Within id r := by
  induction inner with
  | self => exact outer
  | inside around _ ih => exact .inside around ih

/-- Of two graphs around the same entity one lies within the other. -/
theorem linear (left : s.Within first r) (right : s.Within second r) :
    s.Within first (.graph second) ∨ s.Within second (.graph first) := by
  induction left with
  | self => exact .inr right
  | inside around outer ih =>
    cases right with
    | self => exact .inl (.inside around outer)
    | inside around' outer' =>
      obtain rfl := Option.some.inj (around.symm.trans around')
      exact ih outer'

end Within

namespace Filed

/-- A graph contains the entities whose container it is. -/
theorem mem_contents_iff (filed : s.Filed) : r ∈ s.contents id ↔ s.container? r = some id := by
  rw [← List.count_pos_iff, filed.listed]
  split <;> simp [*]

private theorem nodup_contents (filed : s.Filed) (id : GraphId) : (s.contents id).Nodup := by
  rw [List.nodup_iff_count_le_one]
  intro r
  rw [filed.listed]
  split <;> omega

theorem container_of_mem_graphsIn (filed : s.Filed) (listed : first ∈ s.graphsIn id) :
    s.container? (.graph first) = some id := by
  rw [← filed.mem_contents_iff, contents_eq, List.append_assoc]
  exact List.mem_append_left _ (List.mem_map_of_mem listed)

/-- A graph is older than those within it. -/
theorem older_of_within (filed : s.Filed) (within : s.Within first (.graph second)) :
    first = second ∨ first.index < second.index := by
  generalize target : EntityRef.graph second = r at within
  induction within generalizing second with
  | self => exact .inl (EntityRef.graph.inj target).symm
  | inside around _ ih =>
    subst target
    have younger := filed.older second _ around
    rcases ih rfl with rfl | older
    · exact .inr younger
    · exact .inr (by omega)

/-- A graph does not lie within one that it lists. -/
theorem not_within (filed : s.Filed) (listed : s.container? (.graph first) = some id) :
    ¬ s.Within first (.graph id) := by
  intro within
  have older := filed.older first id listed
  rcases filed.older_of_within within with rfl | younger <;> omega

/-- Nothing lies within two graphs side by side. -/
theorem eq_of_within (filed : s.Filed) (left : s.container? (.graph first) = some id)
    (right : s.container? (.graph second) = some id) (inFirst : s.Within first r)
    (inSecond : s.Within second r) : first = second := by
  -- Of two nested graphs the inner one is listed by a graph within the outer one.
  have same {inner outer : GraphId} (listed : s.container? (.graph inner) = some id)
      (beside : s.container? (.graph outer) = some id) (within : s.Within outer (.graph inner)) :
      outer = inner := by
    cases within with
    | self => rfl
    | inside around rest =>
      obtain rfl := Option.some.inj (listed.symm.trans around)
      exact absurd rest (filed.not_within beside)
  rcases inFirst.linear inSecond with within | within
  · exact same right left within
  · exact (same left right within).symm

/-- What is drawn with a graph lies within it. -/
theorem within_of_mem_drawOrderFrom (filed : s.Filed) {depth : Nat}
    (member : r ∈ s.drawOrderFrom depth id) : s.Within id r := by
  induction depth generalizing id r with
  | zero => cases member
  | succ depth ih =>
    have direct {r : EntityRef} (listed : r ∈ s.contents id) : s.Within id r :=
      .inside (filed.mem_contents_iff.mp listed) .self
    simp only [contents_eq, List.mem_append] at direct
    simp only [drawOrderFrom, List.cons_append, List.mem_cons, List.mem_append] at member
    rcases member with rfl | (below | node) | edge
    · exact .self
    · obtain ⟨child, listed, member⟩ := List.mem_flatMap.mp below
      exact (direct (.inl (.inl (List.mem_map_of_mem listed)))).trans (ih member)
    · exact direct (.inl (.inr node))
    · exact direct (.inr edge)

private theorem nodup_drawOrderFrom (filed : s.Filed) (depth : Nat) (id : GraphId) :
    (s.drawOrderFrom depth id).Nodup := by
  induction depth generalizing id with
  | zero => exact .nil
  | succ depth ih =>
    have listed := filed.nodup_contents id
    rw [contents_eq, List.append_assoc, List.nodup_append] at listed
    obtain ⟨graphs, others, -⟩ := listed
    have inside {child : GraphId} (member : child ∈ s.graphsIn id) :
        s.container? (.graph child) = some id :=
      filed.container_of_mem_graphsIn member
    have below {r : EntityRef} (member : r ∈ (s.graphsIn id).flatMap (s.drawOrderFrom depth)) :
        ∃ child, s.container? (.graph child) = some id ∧ s.Within child r := by
      obtain ⟨child, listed, drawn⟩ := List.mem_flatMap.mp member
      exact ⟨child, inside listed, filed.within_of_mem_drawOrderFrom drawn⟩
    rw [drawOrderFrom, List.cons_append, List.cons_append, List.append_assoc, List.nodup_cons,
      List.nodup_append, List.nodup_flatMap]
    refine ⟨?_, ⟨fun child _ => ih child, ?_⟩, others, ?_⟩
    · -- The graph lies within none of its subgraphs.
      rw [List.mem_append]
      rintro (member | member)
      · obtain ⟨child, listed, within⟩ := below member
        exact filed.not_within listed within
      · simp at member
    · apply List.Pairwise.imp_of_mem _ (List.Nodup.of_map _ graphs)
      intro first second inFirst inSecond different r left right
      exact different (filed.eq_of_within (inside inFirst) (inside inSecond)
        (filed.within_of_mem_drawOrderFrom left) (filed.within_of_mem_drawOrderFrom right))
    · rintro r drawn _ direct rfl
      obtain ⟨child, listed, within⟩ := below drawn
      have here : s.container? r = some id := by
        rw [← filed.mem_contents_iff, contents_eq, List.append_assoc]
        exact List.mem_append_right _ direct
      cases within with
      | self => simp at direct
      | inside around rest =>
        obtain rfl := Option.some.inj (here.symm.trans around)
        exact filed.not_within listed rest

/-- Nothing is drawn twice. -/
theorem nodup_drawOrder (filed : s.Filed) : s.drawOrder.Nodup :=
  filed.nodup_drawOrderFrom s.graphs.size root

end Filed
end XdotViewer.Scene
