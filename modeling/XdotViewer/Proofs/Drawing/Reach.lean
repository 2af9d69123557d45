import XdotViewer.Proofs.Drawing.Endless
import XdotViewer.Proofs.Images.Requests

/-! # How far a full pass comes

A full pass draws entity after entity until one of them has no seed for its box. The entities before
that one are drawn completely, and of the others nothing is there: no operation, no text, no region,
no box, no report and no request for an image.
-/

namespace XdotViewer

namespace Setting

variable {ι : Type}

/-- Why an entity has no seed: nobody gives it the attribute, or the value cannot be read. -/
inductive Unseeded (setting : Setting ι) (entity : EntityRef) : SeedError → Prop
  | missing : setting.scene.attr? entity (Seed.attrName entity) = none →
    Unseeded setting entity (.missing (setting.scene.nameOf entity) (Seed.attrName entity))
  | unreadable {value : String} :
    setting.scene.attr? entity (Seed.attrName entity) = some value →
    setting.readSeed? entity value.toList = none →
    Unseeded setting entity
      (.unreadable (setting.scene.nameOf entity) (Seed.attrName entity) value)

/-- The region of an entity with a certain box. -/
def regionOf (setting : Setting ι) (entity : EntityRef) (box : Rect Float) : Region :=
  setting.region { entity, name := setting.scene.nameOf entity, trace := ∅, box }

/-- What an entity with a certain box adds to the overlay: its texts, then its region. -/
def elementsOf (setting : Setting ι) (entity : EntityRef) (box : Rect Float) :
    List OverlayElement :=
  (setting.textsOf entity).map .text ++ [.region (setting.regionOf entity box)]

/-- The box grows from the seed of its entity by what the scripts paint. -/
def IsBox (setting : Setting ι) (entity : EntityRef) (box : Rect Float) : Prop :=
  ∃ seed, setting.seed entity = .ok seed ∧ box = growBox seed (setting.drawEntity entity).boxes

variable {setting : Setting ι} {entity : EntityRef} {error : SeedError}

private theorem seed_eq_error_iff :
    setting.seed entity = .error error ↔ setting.Unseeded entity error := by
  constructor
  · intro failed
    simp only [seed] at failed
    split at failed
    · rename_i absent
      cases failed
      exact .missing absent
    · rename_i value given
      split at failed
      · cases failed
      · rename_i unread
        cases failed
        exact .unreadable given unread
  · intro unseeded
    cases unseeded with
    | missing absent => simp only [seed, absent]
    | unreadable given unread => simp only [seed, given, unread]

private theorem not_unseeded_of_isBox {box : Rect Float} (isBox : setting.IsBox entity box) :
    ¬ setting.Unseeded entity error := by
  obtain ⟨seed, seeded, -⟩ := isBox
  rw [← seed_eq_error_iff, seeded]
  nofun

/-- An entity as a full pass draws it. -/
def drawnWith (setting : Setting ι) (found : EntityRef × Rect Float) : EntityDrawing ι where
  entity := found.1
  name := setting.scene.nameOf found.1
  trace := setting.drawEntity found.1
  box := found.2

/-- Entities are drawn up to the first without a seed. -/
theorem exists_reached (setting : Setting ι) (entities : List EntityRef) :
    ∃ (found : List (EntityRef × Rect Float)) (rest : List EntityRef),
      entities = found.map Prod.fst ++ rest ∧
      (∀ one ∈ found, setting.IsBox one.1 one.2) ∧
      (setting.drawEntities entities).1 = found.map setting.drawnWith ∧
      match (setting.drawEntities entities).2 with
      | none => rest = []
      | some error => ∃ entity others, rest = entity :: others ∧ setting.Unseeded entity error := by
  induction entities with
  | nil => exact ⟨[], [], rfl, nofun, rfl, rfl⟩
  | cons entity others ih =>
    cases begun : setting.seed entity with
    | error error =>
      refine ⟨[], entity :: others, rfl, nofun, ?_, ?_⟩
      · simp only [drawEntities, begun]
        rfl
      · simp only [drawEntities, begun]
        exact ⟨entity, others, rfl, seed_eq_error_iff.mp begun⟩
    | ok seed =>
      obtain ⟨found, rest, rfl, boxes, drawn, ended⟩ := ih
      let box := growBox seed (setting.drawEntity entity).boxes
      refine ⟨(entity, box) :: found, rest, rfl, ?_, ?_, ?_⟩
      · rintro one (_ | ⟨_, member⟩)
        · exact ⟨seed, begun, rfl⟩
        · exact boxes one member
      · simp only [drawEntities, begun, drawn]
        rfl
      · simp only [drawEntities, begun]
        exact ended

section FullPass

variable {found : List (EntityRef × Rect Float)}
  (drawn : (setting.drawEntities setting.drawnEntities).1 = found.map setting.drawnWith)
include drawn

private theorem traces_of_drawn :
    (setting.drawEntities setting.drawnEntities).1.map EntityDrawing.trace =
    (found.map Prod.fst).map setting.drawEntity := by
  rw [drawn, List.map_map, List.map_map]
  rfl

private theorem ops_of_drawn : setting.fullPass.trace.ops =
    setting.passOps true (((found.map Prod.fst).flatMap setting.scene.stringsOf).map fun string =>
      (setting.stringBlock string).ops) := by
  have entities : (setting.drawEntities setting.drawnEntities).1.map EntityDrawing.entity =
      found.map Prod.fst := by
    rw [drawn, List.map_map]
    rfl
  rw [fullPass_eq_passOps, seededStrings, entities]

private theorem overlay_of_drawn : setting.fullPass.overlay =
    ⟨setting.canvasSize.1, setting.canvasSize.2,
      found.flatMap fun one => setting.elementsOf one.1 one.2⟩ := by
  have elements (one : EntityRef × Rect Float) :
      setting.elements (setting.drawnWith one) = setting.elementsOf one.1 one.2 := by
    have texts : (setting.drawEntity one.1).texts = setting.textsOf one.1 :=
      setting.picks_texts.drawEntity one.1
    rw [Setting.elements, elementsOf, ← texts]
    rfl
  simp only [fullPass, drawn, List.flatMap_map, elements]

private theorem boxes_of_drawn : setting.fullPass.boxes = .ofList found := by
  simp only [fullPass, drawn, List.map_map]
  exact congrArg OrderedMap.ofList (List.map_id found)

private theorem diagnostics_of_drawn : setting.fullPass.trace.diagnostics =
    ((found.map Prod.fst).flatMap setting.scene.stringsOf).flatMap fun string =>
      (setting.stringBlock string).diagnostics := by
  simp only [fullPass, traces_of_drawn drawn, join_drawEntity, Trace.diagnostics_join,
    List.flatMap_map]

private theorem sources_of_drawn : setting.fullPass.trace.sources =
    (found.map Prod.fst).flatMap setting.sourcesOf := by
  have sources (entity : EntityRef) : (setting.drawEntity entity).sources =
      setting.sourcesOf entity :=
    setting.picks_sources.drawEntity entity
  simp only [fullPass, traces_of_drawn drawn, setting.picks_sources.join, List.flatMap_map,
    sources]

end FullPass

end Setting

namespace Drawing

variable {ι : Type}

/-- A full pass has drawn these entities, each with its box, and nothing else. -/
structure Covers (drawing : Drawing ι) (document : Document) (palettes : Palettes)
    (found : List (EntityRef × Rect Float)) (outcome : Outcome ι) : Prop where
  isBox : ∀ one ∈ found, (drawing.setting document palettes).IsBox one.1 one.2
  /-- The blocks of the draw strings, between the beginning and the end of the pass. -/
  ops : outcome.ops = (drawing.setting document palettes).passOps true
    (((found.map Prod.fst).flatMap document.scene.stringsOf).map fun string =>
      ((drawing.setting document palettes).stringBlock string).ops)
  overlay : outcome.drawing.overlay =
    ⟨(drawing.canvasSize document).1, (drawing.canvasSize document).2,
      found.flatMap fun one => (drawing.setting document palettes).elementsOf one.1 one.2⟩
  boxes : outcome.drawing.boxes = .ofList found
  diagnostics : outcome.drawing.diagnostics =
    ((found.map Prod.fst).flatMap document.scene.stringsOf).flatMap fun string =>
      ((drawing.setting document palettes).stringBlock string).diagnostics
  images : outcome.drawing.images = drawing.images.requestAll
    ((found.map Prod.fst).flatMap (drawing.setting document palettes).sourcesOf)

section Reached

variable {drawing : Drawing ι} {fits : Nat → Nat → Bool} {document : Document}
  (palettes : Palettes)

/-- On a canvas that takes its size, a full pass draws the entities up to the first without a
seed. -/
theorem exists_covers
    (takes : fits (drawing.canvasSize document).1 (drawing.canvasSize document).2 = true) :
    let setting := drawing.setting document palettes
    let outcome := drawing.draw fits document palettes
    ∃ (found : List (EntityRef × Rect Float)) (rest : List EntityRef),
      setting.drawnEntities = found.map Prod.fst ++ rest ∧
      drawing.Covers document palettes found outcome ∧
      (outcome.error = none ∧ rest = [] ∨
        ∃ fault entity others, outcome.error = some (.seed fault) ∧ rest = entity :: others ∧
          setting.Unseeded entity fault) := by
  intro setting outcome
  have result : outcome = _ := draw_of_fits palettes takes
  obtain ⟨found, rest, whole, isBox, drawn, ended⟩ :=
    setting.exists_reached setting.drawnEntities
  refine ⟨found, rest, whole, ?_, ?_⟩
  · rw [result]
    exact {
      isBox := isBox
      ops := Setting.ops_of_drawn drawn
      overlay := Setting.overlay_of_drawn drawn
      boxes := Setting.boxes_of_drawn drawn
      diagnostics := Setting.diagnostics_of_drawn drawn
      images := congrArg drawing.images.requestAll (Setting.sources_of_drawn drawn) }
  · have error : outcome.error =
        (setting.drawEntities setting.drawnEntities).2.map .seed := by
      rw [result]
      rfl
    rw [error]
    split at ended
    · rename_i none
      rw [none]
      exact .inl ⟨rfl, ended⟩
    · rename_i fault failed
      obtain ⟨entity, others, next, unseeded⟩ := ended
      rw [failed]
      exact .inr ⟨fault, entity, others, rfl, next, unseeded⟩

/-- Without an error all drawn entities have been drawn. -/
theorem covers_of_error_eq_none {palettes : Palettes}
    (done : (drawing.draw fits document palettes).error = none) :
    ∃ found : List (EntityRef × Rect Float),
      (drawing.setting document palettes).drawnEntities = found.map Prod.fst ∧
      drawing.Covers document palettes found (drawing.draw fits document palettes) := by
  have takes : fits (drawing.canvasSize document).1 (drawing.canvasSize document).2 = true := by
    by_contra refused
    rw [draw_of_not_fits palettes refused] at done
    cases done
  obtain ⟨found, rest, whole, covers, ⟨-, rfl⟩ | ⟨fault, _, _, failed, -⟩⟩ :=
    exists_covers palettes takes
  · exact ⟨found, whole.trans (List.append_nil _), covers⟩
  · rw [failed] at done
    cases done

/-- A canvas that records operations takes every size. There a full pass returns an error exactly if
a drawn entity has no seed and no stroke before it is endless, and the first of these entities is
the one that the error names. The entities before it are drawn completely, and nothing of the others
is there. -/
theorem pass_stops_at_unseeded (drawing : Drawing ι) (document : Document) (palettes : Palettes) :
    let fits := fun (_ _ : Nat) => true
    let setting := drawing.setting document palettes
    let outcome := drawing.pass fits document palettes true
    ((∃ error, outcome.Returns (some error)) ↔
      (∃ entity ∈ setting.drawnEntities, ∃ fault, setting.Unseeded entity fault) ∧
        ¬ ∃ stretch ∈ drawing.stretches fits document palettes true, setting.Endless stretch) ∧
    ∀ error, outcome.Returns (some error) →
      ∃ (found : List (EntityRef × Rect Float)) (entity : EntityRef) (others : List EntityRef)
        (fault : SeedError),
        setting.drawnEntities = found.map Prod.fst ++ entity :: others ∧
        (∀ before ∈ found.map Prod.fst, ∀ fault, ¬ setting.Unseeded before fault) ∧
        setting.Unseeded entity fault ∧ error = .seed fault ∧
        drawing.Covers document palettes found outcome ∧
        outcome.drawing.images.queue = drawing.images.queue ++
          (drawing.images.freshSources ((found.map Prod.fst).flatMap setting.sourcesOf)).map
            fun source => ⟨source, drawing.images.base ++ source⟩ := by
  intro fits setting outcome
  have ends : outcome.endless = false ↔
      ¬ ∃ stretch ∈ drawing.stretches fits document palettes true, setting.Endless stretch := by
    rw [← endless_pass, Bool.not_eq_true]
  obtain ⟨found, rest, whole, covers, ended⟩ := @exists_covers ι drawing fits document palettes rfl
  have seeded (before : EntityRef) (member : before ∈ found.map Prod.fst) (fault : SeedError) :
      ¬ setting.Unseeded before fault := by
    obtain ⟨one, there, rfl⟩ := List.mem_map.mp member
    exact Setting.not_unseeded_of_isBox (covers.isBox one there)
  rcases ended with ⟨done, rfl⟩ | ⟨fault, entity, others, failed, rfl, unseeded⟩
  · have safe (error : DrawError) : ¬ outcome.Returns (some error) := by
      rintro ⟨-, failed⟩
      cases done.symm.trans failed
    rw [List.append_nil] at whole
    refine ⟨iff_of_false (fun ⟨error, failed⟩ => safe error failed) ?_, fun error failed =>
      absurd failed (safe error)⟩
    rintro ⟨⟨entity, member, fault, unseeded⟩, -⟩
    exact seeded entity (whole ▸ member) fault unseeded
  · constructor
    · rw [← ends]
      constructor
      · rintro ⟨error, returned⟩
        refine ⟨⟨entity, ?_, fault, unseeded⟩, returned.1⟩
        have listed : setting.drawnEntities = found.map Prod.fst ++ entity :: others := whole
        rw [listed]
        exact List.mem_append_right _ List.mem_cons_self
      · rintro ⟨-, returns⟩
        exact ⟨_, returns, failed⟩
    · intro error returned
      have same : error = .seed fault := Option.some.inj (returned.2.symm.trans failed)
      refine ⟨found, entity, others, fault, whole, seeded, unseeded, same, covers, ?_⟩
      exact covers.images ▸ (drawing.images.requestAll_eq _).2

/-- A graph with a ring, and in it a node without a position and one whose position says nothing. -/
def lostNodes : Document where
  scene :=
    let ring := ((Scene.new "ring" false .directed).insertAttr (.own (.graph Scene.root)) "bb"
      "0,0,72,72").insertDrawAttr (.graph Scene.root) "_draw_" "E 36 36 18 18"
    let (one, a) := ring.addNode Scene.root "a"
    let (two, b) := (one.insertDrawAttr (.node a) "_draw_" "c 3 -red").addNode Scene.root "b"
    (two.insertDrawAttr (.node b) "_draw_" "S 4 -bold").insertAttr (.own (.node b)) "pos" "there"
  metadata := {}
  diagnostics := []

/-- The ring is drawn, and the first of the nodes is named. -/
theorem pass_stops_at_unseeded_lostNodes :
    let drawing : Drawing Unit := .new {}
    let outcome := drawing.pass (fun _ _ => true) lostNodes .minimal true
    outcome.Returns (some (.seed (.missing "a" "pos"))) ∧
      ∃ found entity others,
        [.graph Scene.root, .node ⟨0⟩, .node ⟨1⟩] = found.map Prod.fst ++ entity :: others ∧
        (drawing.setting lostNodes .minimal).Unseeded entity (.missing "a" "pos") ∧
        drawing.Covers lostNodes .minimal found outcome := by
  intro drawing outcome
  have returned : outcome.Returns (some (.seed (.missing "a" "pos"))) :=
    ⟨by decide +kernel, by decide +kernel⟩
  have drawn : (drawing.setting lostNodes .minimal).drawnEntities =
      [.graph Scene.root, .node ⟨0⟩, .node ⟨1⟩] := by decide +kernel
  obtain ⟨found, entity, others, _, whole, -, unseeded, same, covers, -⟩ :=
    (pass_stops_at_unseeded drawing lostNodes .minimal).2 _ returned
  cases same
  exact ⟨returned, found, entity, others, drawn ▸ whole, unseeded, covers⟩

/-- A graph with a dashed line that is too long, and in it a node without a position. -/
def lostBehindDash : Document where
  scene :=
    let dash := ((Scene.new "dash" false .directed).insertAttr (.own (.graph Scene.root)) "bb"
      "0,0,0,0").insertDrawAttr (.graph Scene.root) "_draw_" longDash
    let (one, a) := dash.addNode Scene.root "a"
    one.insertDrawAttr (.node a) "_draw_" "c 3 -red"
  metadata := {}
  diagnostics := []

/-- A drawn entity has no seed, and no error says so: the pass never comes to it. -/
theorem not_returns_lostBehindDash :
    let drawing : Drawing Unit := .new {}
    let setting := drawing.setting lostBehindDash .minimal
    let outcome := drawing.pass (fun _ _ => true) lostBehindDash .minimal true
    (∃ entity ∈ setting.drawnEntities, ∃ fault, setting.Unseeded entity fault) ∧
      ∀ error, ¬ outcome.Returns error := by
  intro drawing setting outcome
  have drawn : setting.drawnEntities = [.graph Scene.root, .node ⟨0⟩] := by decide +kernel
  have strings : setting.seededStrings.map DrawString.text = [longDash] := by decide +kernel
  constructor
  · refine ⟨.node ⟨0⟩, drawn ▸ List.mem_cons_of_mem _ List.mem_cons_self, _, .missing ?_⟩
    decide +kernel
  · rintro error ⟨ends, -⟩
    have listed : longDash ∈ setting.seededStrings.map DrawString.text :=
      strings ▸ List.mem_cons_self
    have endless : outcome.endless = true :=
      endless_pass.mpr (exists_endless_of_longDash rfl rfl listed)
    rw [ends] at endless
    cases endless

end Reached

end Drawing
end XdotViewer
