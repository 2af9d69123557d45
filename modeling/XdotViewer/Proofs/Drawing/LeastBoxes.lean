import XdotViewer.Proofs.Drawing.Figures
import XdotViewer.Proofs.Drawing.Reach
import XdotViewer.Proofs.Geometry.Doubles
import XdotViewer.Proofs.Geometry.Ordered

/-! # Least boxes

The box that a full pass keeps for an entity is the least rectangle around its seed and the control
points of its figures. So it does not matter in which order the draw attributes of the entity stand.
-/

namespace XdotViewer

/-- The control points of all segments of a path. -/
def Path.controlPoints (path : Path Float) : List (Point Float) :=
  path.segments.flatMap Bezier.points

/-- Rearranges the draw attributes of every entity. -/
structure Rearrangement where
  arrange : EntityRef → List (String × String) → List (String × String)
  perm : ∀ entity attrs, (arrange entity attrs).Perm attrs

namespace Rearrangement

variable (order : Rearrangement)

def edit (entity : EntityRef) (attrs : OrderedMap String String) : OrderedMap String String where
  entries := order.arrange entity attrs.entries
  nodup := ((order.perm entity attrs.entries).map Prod.fst).nodup_iff.mpr attrs.nodup

private theorem isEmpty_edit (entity : EntityRef) (attrs : OrderedMap String String) :
    (order.edit entity attrs).isEmpty = attrs.isEmpty :=
  (order.perm entity attrs.entries).isEmpty_eq

private theorem stringsOf_perm (s : Scene) (entity : EntityRef) :
    ((s.editDrawAttrs order.edit).stringsOf entity).Perm (s.stringsOf entity) := by
  rw [Scene.stringsOf, Scene.stringsOf, Scene.entity?_editDrawAttrs]
  cases s.entity? entity with
  | none => exact .nil
  | some data => exact (order.perm entity data.drawAttrs.entries).map _

end Rearrangement

namespace Setting

variable {ι : Type} {setting : Setting ι} {entity : EntityRef}

/-- The seed of a graph is its rectangle on the canvas with the edges in order, that of a node or an
edge its position, moved to whole coordinates. -/
inductive Seeded (setting : Setting ι) : EntityRef → Rect Float → Prop
  | graph {id : GraphId} {value : String} {r : Rect Float} :
    setting.scene.attr? (.graph id) "bb" = some value → Seed.edges? value.toList = some r →
      Seeded setting (.graph id)
        (Rect.normalized ⟨r.left, setting.flip r.bottom, r.right, setting.flip r.top⟩)
  | node {id : NodeId} {value : String} {p : Point Float} :
    setting.scene.attr? (.node id) "pos" = some value → Seed.position? value.toList = some p →
      Seeded setting (.node id) (.atPoint ⟨roundHalfAway p.x, roundHalfAway (setting.flip p.y)⟩)
  | edge {id : EdgeId} {value : String} {p : Point Float} :
    setting.scene.attr? (.edge id) "pos" = some value → Seed.position? value.toList = some p →
      Seeded setting (.edge id) (.atPoint ⟨roundHalfAway p.x, roundHalfAway (setting.flip p.y)⟩)

/-- An entity has a seed exactly if its attribute can be read as one. -/
theorem seed_eq_ok_iff {seed : Rect Float} :
    setting.seed entity = .ok seed ↔ setting.Seeded entity seed := by
  constructor
  · intro read
    rw [Setting.seed] at read
    split at read
    · cases read
    · rename_i value given
      split at read
      · rename_i box found
        cases read
        cases entity with
        | graph id =>
          obtain ⟨r, edges, rfl⟩ := Option.map_eq_some_iff.mp found
          exact .graph given edges
        | node id =>
          obtain ⟨p, position, rfl⟩ := Option.map_eq_some_iff.mp found
          exact .node given position
        | edge id =>
          obtain ⟨p, position, rfl⟩ := Option.map_eq_some_iff.mp found
          exact .edge given position
      · cases read
  · intro seeded
    cases seeded with
    | graph given read | node given read | edge given read =>
      simp only [Setting.seed, Seed.attrName, given, readSeed?, read, Option.map_some]

/-- The control points of all figures of an entity. -/
def controlPoints (setting : Setting ι) (entity : EntityRef) : List (Point Float) :=
  (setting.figuresOf entity).flatMap fun figure => figure.path.controlPoints

private theorem leastAround_of_isBox {seed box : Rect Float} (seeded : setting.Seeded entity seed)
    (isBox : setting.IsBox entity box) (number : seed.IsNumber)
    (numbers : ∀ p ∈ setting.controlPoints entity, p.IsNumber) :
    seed.LeastAround (setting.controlPoints entity) box := by
  obtain ⟨begun, same, rfl⟩ := isBox
  obtain rfl : begun = seed := Except.ok.inj (same.symm.trans (seed_eq_ok_iff.mpr seeded))
  have boxes : (setting.drawEntity entity).boxes =
      ((setting.figuresOf entity).map fun figure => figure.path.controlPoints).filterMap
        Rect.around := by
    rw [boxes_drawEntity, List.filterMap_map]
    rfl
  rw [growBox, boxes]
  rw [controlPoints, List.flatMap_def] at numbers ⊢
  exact Rect.leastAround_foldl_expand number numbers

private theorem mem_controlPoints_rearranged (setting : Setting ι) (order : Rearrangement)
    (entity : EntityRef) (p : Point Float) :
    p ∈ (setting.editDrawAttrs order.edit).controlPoints entity ↔
      p ∈ setting.controlPoints entity := by
  have strings : ((setting.editDrawAttrs order.edit).scene.stringsOf entity).Perm
      (setting.scene.stringsOf entity) := order.stringsOf_perm setting.scene entity
  exact ((strings.flatMap_right _).flatMap_right _).mem_iff

end Setting

namespace Drawing

variable {ι : Type} {drawing : Drawing ι} {fits : Nat → Nat → Bool} {document : Document}
  {palettes : Palettes}

/-- A full pass that does not fail keeps a box for every entity that is drawn. -/
theorem exists_box_of_error_eq_none
    (done : (drawing.pass fits document palettes true).error = none) {entity : EntityRef}
    (member : entity ∈ (drawing.setting document palettes).drawnEntities) :
    ∃ box, (drawing.pass fits document palettes true).drawing.boxes.get? entity = some box ∧
      (drawing.setting document palettes).IsBox entity box := by
  obtain ⟨found, whole, covers⟩ := covers_of_error_eq_none done
  obtain ⟨box, known, listed⟩ := OrderedMap.exists_get?_ofList (whole ▸ member)
  have kept : (drawing.pass fits document palettes true).drawing.boxes = .ofList found :=
    covers.boxes
  exact ⟨box, kept ▸ known, covers.isBox (entity, box) listed⟩

/-- After a full pass that does not fail, the box of each drawn entity is the least rectangle around
its seed and the control points of its figures, as far as these are numbers. It stays the same when
draw attributes are rearranged. -/
theorem pass_boxes_least (drawing : Drawing ι) (fits : Nat → Nat → Bool) (document : Document)
    (palettes : Palettes) (done : (drawing.pass fits document palettes true).error = none) :
    let setting := drawing.setting document palettes
    ∀ entity ∈ setting.drawnEntities, ∃ seed box, setting.Seeded entity seed ∧
      (drawing.pass fits document palettes true).drawing.boxes.get? entity = some box ∧
      (seed.IsNumber → (∀ p ∈ setting.controlPoints entity, p.IsNumber) →
        seed.LeastAround (setting.controlPoints entity) box ∧
        ∀ order : Rearrangement,
          let again := drawing.pass fits (document.editDrawAttrs order.edit) palettes true
          again.error = none ∧
          ∃ other, again.drawing.boxes.get? entity = some other ∧ (other == box) = true) := by
  intro setting entity member
  obtain ⟨box, known, isBox⟩ := exists_box_of_error_eq_none done member
  obtain ⟨seed, begun, -⟩ := id isBox
  have seeded : setting.Seeded entity seed := Setting.seed_eq_ok_iff.mp begun
  refine ⟨seed, box, seeded, known, fun number numbers => ?_⟩
  have least := Setting.leastAround_of_isBox seeded isBox number numbers
  refine ⟨least, fun order => ?_⟩
  intro again
  have same : drawing.setting (document.editDrawAttrs order.edit) palettes =
      setting.editDrawAttrs order.edit := setting_editDrawAttrs rfl (fun _ => rfl) order.edit
  have safe : again.error = none :=
    (error_pass_editDrawAttrs rfl (fun _ => rfl) order.edit order.isEmpty_edit).trans done
  have points := setting.mem_controlPoints_rearranged order entity
  have drawn : entity ∈
      (drawing.setting (document.editDrawAttrs order.edit) palettes).drawnEntities := by
    rw [same, setting.drawnEntities_editDrawAttrs order.edit order.isEmpty_edit]
    exact member
  obtain ⟨other, there, otherIs⟩ := exists_box_of_error_eq_none safe drawn
  rw [same] at otherIs
  have stays : (setting.editDrawAttrs order.edit).Seeded entity seed :=
    Setting.seed_eq_ok_iff.mp ((setting.seed_editDrawAttrs order.edit entity).trans begun)
  have again := Setting.leastAround_of_isBox stays otherIs number fun p there =>
    numbers p ((points p).mp there)
  exact ⟨safe, other, there, again.beq least points⟩

/-- A node with a triangle that a fault follows, and a line in a second draw string. -/
def brokenTriangle : Document where
  scene :=
    let (one, a) := (Scene.new "ring" false .directed).addNode Scene.root "a"
    ((one.insertAttr (.own (.node a)) "pos" "36,36").insertDrawAttr (.node a) "_draw_"
      "P 3 10 20 30 40 50 6 E 1").insertDrawAttr (.node a) "_ldraw_" "L 2 0 0 20 70"
  metadata := {}
  diagnostics := []

/-- A triangle and a script that breaks off, also with the draw strings in reverse order. -/
theorem pass_boxes_least_brokenTriangle :
    let drawing : Drawing Unit := .new {}
    let setting := drawing.setting brokenTriangle .minimal
    let order : Rearrangement := ⟨fun _ attrs => attrs.reverse, fun _ => List.reverse_perm⟩
    let outcome := drawing.pass (fun _ _ => true) brokenTriangle .minimal true
    let again := drawing.pass (fun _ _ => true) (brokenTriangle.editDrawAttrs order.edit) .minimal
      true
    outcome.error = none ∧ again.error = none ∧
      (setting.controlPoints (.node ⟨0⟩)).length = 8 ∧
      ∃ seed box other, setting.Seeded (.node ⟨0⟩) seed ∧
        outcome.drawing.boxes.get? (.node ⟨0⟩) = some box ∧
        seed.LeastAround (setting.controlPoints (.node ⟨0⟩)) box ∧
        again.drawing.boxes.get? (.node ⟨0⟩) = some other ∧ (other == box) = true := by
  intro drawing setting order outcome again
  have done : outcome.error = none := Option.isNone_iff_eq_none.mp (by decide +kernel)
  have drawn : .node ⟨0⟩ ∈ setting.drawnEntities := by decide +kernel
  have seedNumber : ∀ seed ∈ (setting.seed (.node ⟨0⟩)).toOption, seed.IsNumber := by
    decide +kernel
  have numbers : ∀ p ∈ setting.controlPoints (.node ⟨0⟩), p.IsNumber := by decide +kernel
  obtain ⟨seed, box, seeded, known, stays⟩ :=
    pass_boxes_least drawing (fun _ _ => true) brokenTriangle .minimal done _ drawn
  have number : seed.IsNumber :=
    seedNumber seed (by rw [Setting.seed_eq_ok_iff.mpr seeded]; rfl)
  obtain ⟨least, moved⟩ := stays number numbers
  obtain ⟨safe, other, there, same⟩ := moved order
  exact ⟨done, safe, by decide +kernel, seed, box, other, seeded, known, least, there, same⟩

end Drawing
end XdotViewer
