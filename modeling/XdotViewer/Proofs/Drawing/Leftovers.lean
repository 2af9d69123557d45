import XdotViewer.Proofs.Document.Containment
import XdotViewer.Proofs.Drawing.Reach
import XdotViewer.Proofs.Scene.DrawOrder

/-! # What a full pass leaves behind

After a full pass without an error, the boxes are those of the drawn entities in drawing order, and
the overlay holds for each of them its texts and then its region. A point belongs to the last of the
entities whose region contains it.
-/

namespace XdotViewer

/-- The region that an element is. -/
def OverlayElement.region? : OverlayElement → Option Region
  | region r => some r
  | text _ => none

private theorem Overlay.regions_eq (overlay : Overlay) :
    overlay.regions = overlay.elements.filterMap OverlayElement.region? := by
  apply congrArg (List.filterMap · overlay.elements)
  funext element
  cases element <;> rfl

namespace Setting

variable {ι : Type} (setting : Setting ι)

/-- An entity adds one region. -/
theorem regions_elementsOf (entity : EntityRef) (box : Rect Float) :
    (setting.elementsOf entity box).filterMap OverlayElement.region? =
      [setting.regionOf entity box] := by
  have none : ((setting.textsOf entity).map .text).filterMap OverlayElement.region? = [] := by
    rw [List.filterMap_map, List.filterMap_eq_nil_iff]
    exact fun _ _ => rfl
  rw [elementsOf, List.filterMap_append, none]
  rfl

/-- The regions of an overlay are those of the entities that it was laid out for. -/
theorem regions_of_elements {overlay : Overlay} {found : List (EntityRef × Rect Float)}
    (elements : overlay.elements = found.flatMap fun one => setting.elementsOf one.1 one.2) :
    overlay.regions = found.map fun one => setting.regionOf one.1 one.2 := by
  rw [Overlay.regions_eq, elements, List.filterMap_flatMap, List.map_eq_flatMap]
  simp only [regions_elementsOf]

/-- A point belongs to the last entity whose region contains it. -/
theorem entityAt?_of_elements {overlay : Overlay} {found : List (EntityRef × Rect Float)}
    (elements : overlay.elements = found.flatMap fun one => setting.elementsOf one.1 one.2)
    (x y : Float) :
    overlay.entityAt? x y =
      (found.filter fun one => (setting.regionOf one.1 one.2).contains x y).getLast?.map
        Prod.fst := by
  rw [Overlay.entityAt?, setting.regions_of_elements elements, ← List.getLast?_filter,
    List.filter_map, List.getLast?_map, Option.map_map]
  rfl

end Setting

namespace Drawing

variable {ι : Type} {drawing : Drawing ι} {fits : Nat → Nat → Bool} {document : Document}
  {palettes : Palettes}

/-- After a full pass without an error over a document that has been read, the boxes are those of
the drawn entities, in drawing order. The overlay holds, for each of them, a text for every text
instruction that was executed, blank ones aside, and then one region. A point belongs to the last
entity whose region contains it, and to none exactly if no region does. -/
theorem pass_leaves {reading : Palettes} {text : String}
    (read : Document.read reading text = .ok document)
    (done : (drawing.pass fits document palettes true).error = none) :
    let setting := drawing.setting document palettes
    let left := (drawing.pass fits document palettes true).drawing
    left.boxes.keys = setting.drawnEntities ∧
    (∀ entity box, left.boxes.get? entity = some box → setting.IsBox entity box) ∧
    left.overlay.elements = left.boxes.entries.flatMap (fun one =>
      (setting.textsOf one.1).map .text ++ [.region (setting.regionOf one.1 one.2)]) ∧
    (∀ entity box, (∀ text ∈ setting.textsOf entity, text.entity = entity) ∧
      (setting.regionOf entity box).entity = entity ∧
      (setting.regionOf entity box).name = document.scene.nameOf entity) ∧
    ∀ x y,
      left.overlay.entityAt? x y =
        (left.boxes.entries.filter fun one =>
          (setting.regionOf one.1 one.2).contains x y).getLast?.map Prod.fst ∧
      (left.overlay.entityAt? x y = none ↔
        ∀ one ∈ left.boxes.entries, (setting.regionOf one.1 one.2).contains x y = false) := by
  intro setting left
  obtain ⟨found, whole, covers⟩ := covers_of_error_eq_none done
  obtain ⟨strict, kind, valid⟩ := Document.exists_wellFormed_of_read read
  have distinct : setting.drawnEntities.Nodup := valid.toFiled.nodup_drawOrder.filter _
  have entries : left.boxes.entries = found := by
    have boxes : left.boxes = .ofList found := covers.boxes
    have different : (found.map Prod.fst).Nodup := whole ▸ distinct
    rw [boxes, OrderedMap.entries_ofList different]
  have elements : left.overlay.elements =
      left.boxes.entries.flatMap fun one => setting.elementsOf one.1 one.2 := by
    rw [entries]
    exact congrArg Overlay.elements covers.overlay
  refine ⟨?_, ?_, elements, ?_, fun x y => ?_⟩
  · rw [OrderedMap.keys, entries]
    exact whole.symm
  · intro entity box known
    rw [OrderedMap.get?_eq_some_iff, entries] at known
    exact covers.isBox _ known
  · exact fun entity box => ⟨fun _ => setting.entity_of_mem_textsOf, rfl, rfl⟩
  · refine ⟨setting.entityAt?_of_elements elements x y, ?_⟩
    rw [Overlay.entityAt?_eq_none_iff, setting.regions_of_elements elements]
    exact List.forall_mem_map

/-- A node with a label, a blank text and a script that breaks off, another that draws nothing, and
an edge between them. -/
theorem pass_leaves_brokenLabel :
    let text := "graph G \x7b " ++
      "a [pos=\"36,36\", _ldraw_=\"T 36 36 0 9 1 -a T 1 1 0 0 1 -  E 1\"]; " ++
      "a -- b [pos=\"4,3\", _draw_=\"E 4 3 1 1\"] \x7d"
    let drawing : Drawing Unit := .new {}
    ∃ document, Document.read .minimal text = .ok document ∧
      let setting := drawing.setting document .minimal
      let outcome := drawing.pass (fun _ _ => true) document .minimal true
      outcome.error = none ∧ outcome.drawing.boxes.keys = [.node ⟨0⟩, .edge ⟨0⟩] ∧
        outcome.drawing.overlay.elements = outcome.drawing.boxes.entries.flatMap (fun one =>
          (setting.textsOf one.1).map .text ++ [.region (setting.regionOf one.1 one.2)]) ∧
        (setting.textsOf (.node ⟨0⟩)).map TextElement.text = ["a"] := by
  intro text drawing
  let root : RootStatement := ⟨false, .undirected, "G"⟩
  let statements : List String :=
    ["a [pos=\"36,36\", _ldraw_=\"T 36 36 0 9 1 -a T 1 1 0 0 1 -  E 1\"]",
      "a -- b [pos=\"4,3\", _draw_=\"E 4 3 1 1\"]", "\x7d"]
  have found : Document.findRoot? (statementTexts text.toList) =
      some ([], root, statements.map String.toList) := by decide +kernel
  let document : Document :=
    .finish ((Assembly.start root []).run .minimal (statements.map String.toList))
  have read : Document.read .minimal text = .ok document := by rw [Document.read, found]
  have done : (drawing.pass (fun _ _ => true) document .minimal true).error = none :=
    Option.isNone_iff_eq_none.mp (by decide +kernel)
  have drawn : (drawing.setting document .minimal).drawnEntities = [.node ⟨0⟩, .edge ⟨0⟩] := by
    decide +kernel
  obtain ⟨keys, -, elements, -, -⟩ := pass_leaves read done
  exact ⟨document, read, done, keys.trans drawn, elements, by decide +kernel⟩

end Drawing
end XdotViewer
