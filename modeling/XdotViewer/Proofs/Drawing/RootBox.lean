import XdotViewer.Proofs.Document.AttributeOrder
import XdotViewer.Proofs.Document.BadLines
import XdotViewer.Proofs.Drawing.LeastBoxes

/-! # The rectangle of the root graph

The rectangle of the root graph is read twice: for the extent of the document when the attribute is
stored, and as the seed of the root's box when the document is drawn. The first reader takes the
third and the fourth of the numbers, however many follow; the second wants four and no more. So the
two agree on a value exactly if it does not go on behind its fourth number.
-/

namespace XdotViewer

/-- A traversal that may fail gives its results element by element. -/
theorem mapM_eq_some_iff {α β : Type} {f : α → Option β} {xs : List α} {ys : List β} :
    xs.mapM f = some ys ↔ List.Forall₂ (fun x y => f x = some y) xs ys := by
  induction xs generalizing ys with
  | nil => simp [eq_comm]
  | cons x rest ih =>
    rw [List.mapM_cons, List.forall₂_cons_left_iff]
    constructor
    · intro whole
      obtain ⟨y, first, whole⟩ := Option.bind_eq_some_iff.mp whole
      obtain ⟨others, later, whole⟩ := Option.bind_eq_some_iff.mp whole
      exact ⟨y, others, first, ih.mp later, (Option.some.inj whole).symm⟩
    · rintro ⟨y, others, first, later, rfl⟩
      simp [first, ih.mpr later]

namespace Metadata

variable {value : List Char} {numbers : List Float}

/-- The value is a row of numbers with commas between them and maybe blanks around them. -/
def IsRow (value : List Char) (numbers : List Float) : Prop :=
  List.Forall₂ (fun field number => readFloat? (trim field) = some number) (fields ',' value)
    numbers

/-- The value is a row of numbers that goes on behind the fourth. -/
def Overlong (value : List Char) : Prop :=
  ∃ numbers, IsRow value numbers ∧ 4 < numbers.length

/-- The width and the height of a document are taken from the value, and nothing is reported. -/
def Takes (value : String) (width height : Float) : Prop :=
  ∀ (metadata : Metadata) (palettes : Palettes) (scheme : Option String),
    metadata.update palettes scheme "bb" value = ({ metadata with width, height }, [])

private theorem coordinates?_eq_some_iff :
    coordinates? value = some numbers ↔ IsRow value numbers :=
  mapM_eq_some_iff

private theorem IsRow.unique {others : List Float} (first : IsRow value numbers)
    (second : IsRow value others) : numbers = others :=
  Option.some.inj ((coordinates?_eq_some_iff.mpr first).symm.trans
    (coordinates?_eq_some_iff.mpr second))

private theorem extent?_eq_some_iff {width height : Float} : extent? value = some (width, height) ↔
    ∃ left bottom rest, IsRow value (left :: bottom :: width :: height :: rest) := by
  simp only [← coordinates?_eq_some_iff, extent?]
  constructor
  · intro read
    split at read
    · rename_i left bottom width' height' rest row
      cases read
      exact ⟨left, bottom, rest, row⟩
    · cases read
  · rintro ⟨left, bottom, rest, row⟩
    simp only [row]

private theorem takes_iff {value : String} {width height : Float} :
    Takes value width height ↔ extent? value.toList = some (width, height) := by
  constructor
  · intro takes
    have done := takes {} .minimal none
    simp only [update] at done
    split at done
    · rename_i width' height' read
      have same := congrArg Prod.fst done
      obtain rfl : width' = width := congrArg Metadata.width same
      obtain rfl : height' = height := congrArg Metadata.height same
      exact read
    · cases congrArg Prod.snd done
  · intro read metadata palettes scheme
    simp only [update, read]

/-- Of the attributes of the root graph, the rectangle alone gives the extent of the document. -/
theorem extent_update {name value : String} (other : name ≠ "bb") (metadata : Metadata)
    (palettes : Palettes) (scheme : Option String) :
    (metadata.update palettes scheme name value).1.width = metadata.width ∧
      (metadata.update palettes scheme name value).1.height = metadata.height := by
  obtain ⟨change, changes, eq⟩ := exists_changes palettes scheme name value
  rw [eq]
  cases changes <;> first | exact ⟨rfl, rfl⟩ | exact absurd rfl other

end Metadata

namespace Seed

private theorem edges?_eq_some_iff {value : List Char} {r : Rect Float} :
    edges? value = some r ↔ Metadata.IsRow value [r.left, r.bottom, r.right, r.top] := by
  simp only [← Metadata.coordinates?_eq_some_iff, edges?]
  constructor
  · intro read
    split at read
    · rename_i left bottom right top row
      cases read
      exact row
    · cases read
  · intro row
    simp only [row]

/-- The two readers agree on a value exactly if it does not go on behind its fourth number. -/
theorem edges_iff_extent_iff (value : List Char) :
    (((∃ width height, Metadata.extent? value = some (width, height)) ↔
        ∃ r, edges? value = some r) ↔
      ¬ Metadata.Overlong value) := by
  constructor
  · rintro agree ⟨numbers, row, more⟩
    match numbers, more with
    | left :: bottom :: width :: height :: next :: rest, _ =>
      obtain ⟨r, four⟩ := agree.mp ⟨width, height, Metadata.extent?_eq_some_iff.mpr
        ⟨left, bottom, next :: rest, row⟩⟩
      cases (edges?_eq_some_iff.mp four).unique row
  · intro short
    constructor
    · rintro ⟨width, height, read⟩
      obtain ⟨left, bottom, rest, row⟩ := Metadata.extent?_eq_some_iff.mp read
      cases rest with
      | nil => exact ⟨⟨left, height, width, bottom⟩, edges?_eq_some_iff.mpr row⟩
      | cons next rest => exact absurd ⟨_, row, by simp⟩ short
    · rintro ⟨r, read⟩
      exact ⟨r.right, r.top, Metadata.extent?_eq_some_iff.mpr
        ⟨r.left, r.bottom, [], edges?_eq_some_iff.mp read⟩⟩

end Seed

namespace Assembly

variable {palettes : Palettes} {a b : Assembly} {strict : Bool} {kind : GraphKind}

/-- What became of a rectangle of the root graph: it gave the document its extent, or it could not
be read and is reported. -/
inductive Accounted (metadata : Metadata) (diagnostics : List Diagnostic) (value : String) : Prop
  | taken : Metadata.extent? value.toList = some (metadata.width, metadata.height) →
    Accounted metadata diagnostics value
  | reported : Metadata.extent? value.toList = none →
    Diagnostic.invalidAttribute "bb" value ∈ diagnostics → Accounted metadata diagnostics value

/-- The rectangle that the root graph stores is accounted for. -/
def BoxAccounted (a : Assembly) : Prop :=
  ∀ value, a.scene.value? .root "bb" = some value → Accounted a.metadata a.diagnostics value

/-- A change that leaves the rectangle and the extent alone, and takes back no report. -/
theorem BoxAccounted.of_kept (accounted : a.BoxAccounted)
    (stored : b.scene.value? .root "bb" = a.scene.value? .root "bb")
    (extent : b.metadata.width = a.metadata.width ∧ b.metadata.height = a.metadata.height)
    (reports : a.diagnostics ⊆ b.diagnostics) : b.BoxAccounted := by
  intro value known
  cases accounted value (stored ▸ known) with
  | taken read => exact .taken (by rw [read, extent.1, extent.2])
  | reported unread listed => exact .reported unread (reports listed)

private theorem BoxAccounted.of_stored (accounted : a.BoxAccounted) {scene : Scene}
    (kept : scene.stored? Scene.root = a.scene.stored? Scene.root) :
    ({ a with scene } : Assembly).BoxAccounted := by
  refine accounted.of_kept ?_ ⟨rfl, rfl⟩ (List.Subset.refl _)
  change scene.value? (.own (.graph Scene.root)) "bb" =
    a.scene.value? (.own (.graph Scene.root)) "bb"
  rw [Scene.value?_own_graph, Scene.value?_own_graph, kept]

private theorem BoxAccounted.report (accounted : a.BoxAccounted) (new : List Diagnostic) :
    (a.report new).BoxAccounted :=
  accounted.of_kept rfl ⟨rfl, rfl⟩ (List.subset_append_left _ _)

/-- A rectangle that is stored now is read now. -/
theorem boxAccounted_insert (a : Assembly) (value : String) :
    BoxAccounted { a.updateMetadata palettes "bb" value with
      scene := a.scene.insertAttr .root "bb" value } := by
  intro known stored
  have same : known = value := by
    rw [Scene.value?, Scene.attrMap?_insertAttr_self] at stored
    obtain ⟨map, there, found⟩ := Option.bind_eq_some_iff.mp stored
    obtain ⟨old, -, rfl⟩ := Option.map_eq_some_iff.mp there
    rw [OrderedMap.get?_insert, if_pos rfl] at found
    exact (Option.some.inj found).symm
  subst same
  cases read : Metadata.extent? known.toList with
  | some extent =>
    refine .taken ?_
    simp only [updateMetadata, Metadata.update, read, Assembly.report]
  | none =>
    refine .reported read ?_
    simp [updateMetadata, Metadata.update, read, Assembly.report]

private theorem BoxAccounted.setAttr (accounted : a.BoxAccounted) (slot : AttrSlot)
    (attr : String × String) : (setAttr palettes slot a attr).BoxAccounted := by
  obtain ⟨name, value⟩ := attr
  unfold Assembly.setAttr
  simp only
  split
  · refine accounted.of_kept ?_ ⟨rfl, rfl⟩ (List.Subset.refl _)
    rw [Scene.value?, Scene.attrMap?_insertDrawAttr, Scene.value?]
  · split
    · rename_i own
      obtain rfl : slot = .root := own
      by_cases box : name = "bb"
      · subst box
        exact boxAccounted_insert a value
      · have stored : (a.scene.insertAttr .root name value).value? .root "bb" =
            a.scene.value? .root "bb" :=
          Scene.value?_insertAttr_of_ne (.inr (Ne.symm box)) value
        exact accounted.of_kept stored (Metadata.extent_update box _ _ _)
          (List.subset_append_left _ _)
    · rename_i other
      exact accounted.of_kept (Scene.value?_insertAttr_of_ne (.inl (Ne.symm other)) value)
        ⟨rfl, rfl⟩ (List.Subset.refl _)

private theorem BoxAccounted.applyList? (accounted : a.BoxAccounted) (slot : AttrSlot)
    (list : Option (List Char)) : (a.applyList? palettes slot list).BoxAccounted := by
  have stores (attrs : List (String × String)) :
      (attrs.foldl (Assembly.setAttr palettes slot) a).BoxAccounted := by
    induction attrs generalizing a with
    | nil => exact accounted
    | cons attr rest ih => exact ih (accounted.setAttr slot attr)
  cases list with
  | none => exact accounted
  | some list =>
    unfold Assembly.applyList? applyList
    simp only
    split
    · exact stores _
    · exact (stores _).report _

private theorem BoxAccounted.perform (accounted : a.BoxAccounted) (sound : a.Sound strict kind)
    (container : GraphId) (statement : Statement) :
    (a.perform palettes container statement).BoxAccounted := by
  cases statement with
  | close => exact accounted.of_kept rfl ⟨rfl, rfl⟩ (List.Subset.refl _)
  | subgraph name =>
    have kept := Scene.stored?_addGraph sound.wellFormed.root.1 container name
    exact (accounted.of_stored kept).of_kept rfl ⟨rfl, rfl⟩ (List.Subset.refl _)
  | edge tail head list =>
    refine BoxAccounted.applyList? (accounted.of_stored ?_) _ list
    exact (Scene.stored?_addEdge container tail head).trans
      ((Scene.stored?_ensureNode container head).trans (Scene.stored?_ensureNode container tail))
  | attributes subject list =>
    cases subject with
    | node name =>
      exact BoxAccounted.applyList? (accounted.of_stored (Scene.stored?_ensureNode container name))
        _ list
    | _ => exact accounted.applyList? _ list
  | assign name value => exact accounted.setAttr _ (name, value)

private theorem BoxAccounted.step (accounted : a.BoxAccounted) (sound : a.Sound strict kind)
    (text : List Char) : (step palettes a text).BoxAccounted := by
  unfold Assembly.step
  split
  · exact accounted
  · split
    · exact accounted.perform sound _ _
    · exact accounted.report _

/-- Whatever statements follow, the rectangle of the root graph stays accounted for. -/
theorem BoxAccounted.run (accounted : a.BoxAccounted) (sound : a.Sound strict kind)
    (texts : List (List Char)) : (a.run palettes texts).BoxAccounted := by
  induction texts generalizing a with
  | nil => exact accounted
  | cons text rest ih => exact ih (accounted.step sound text) (sound.step text).1

private theorem boxAccounted_start (root : RootStatement) (diagnostics : List Diagnostic) :
    (start root diagnostics).BoxAccounted := by
  intro value known
  have other : "bb" ≠ "xdotversion" := by decide
  have kept (s : Scene) : (s.insertAttr .root "xdotversion" Version.assumed).value? .root "bb" =
      s.value? .root "bb" := Scene.value?_insertAttr_of_ne (.inr other) Version.assumed
  have none : (start root diagnostics).scene.value? .root "bb" = none := (kept _).trans rfl
  rw [none] at known
  cases known

end Assembly

namespace Document

/-- In a document that has been read, the rectangle of the root graph gave the document its extent,
or it is reported. -/
theorem accounted_of_read {palettes : Palettes} {text value : String} {document : Document}
    (read : Document.read palettes text = .ok document)
    (given : document.scene.attr? (.graph Scene.root) "bb" = some value) :
    Assembly.Accounted document.metadata document.diagnostics value := by
  unfold Document.read at read
  split at read
  · cases read
  · rename_i diagnostics root statements found
    cases read
    have started := Assembly.sound_start root diagnostics
    have sound : ((Assembly.start root diagnostics).run palettes statements).Sound _ _ :=
      (started.run statements).1
    have whole : ((Assembly.start root diagnostics).run palettes statements).BoxAccounted :=
      (Assembly.boxAccounted_start root diagnostics).run started statements
    have stored := (Scene.attr?_eq_of_outermost sound.toRooted "bb").symm.trans given
    rw [← Scene.value?_own_graph] at stored
    cases whole value stored with
    | taken taken => exact .taken taken
    | reported unread listed =>
      refine .reported unread ?_
      unfold finish
      simp only
      split
      · exact listed
      · exact List.mem_append_left _ listed

end Document

namespace Setting

variable {ι : Type} {setting : Setting ι} {id : GraphId} {value : String}

private theorem Unseeded.of_unreadable {entity : EntityRef} {name attr : String}
    (unseeded : setting.Unseeded entity (.unreadable name attr value)) :
    attr = Seed.attrName entity ∧ setting.scene.attr? entity attr = some value ∧
      setting.readSeed? entity value.toList = none := by
  generalize same : SeedError.unreadable name attr value = error at unseeded
  cases unseeded with
  | missing => cases same
  | unreadable given unread =>
    cases same
    exact ⟨rfl, given, unread⟩

/-- A graph has a seed exactly if its rectangle has four numbers. -/
theorem exists_seed_graph_iff (given : setting.scene.attr? (.graph id) "bb" = some value) :
    (∃ box, setting.seed (.graph id) = .ok box) ↔ ∃ r, Seed.edges? value.toList = some r := by
  constructor
  · rintro ⟨box, seeded⟩
    cases seed_eq_ok_iff.mp seeded with
    | graph known read =>
      obtain rfl := Option.some.inj (given.symm.trans known)
      exact ⟨_, read⟩
  · rintro ⟨r, read⟩
    exact ⟨_, seed_eq_ok_iff.mpr (.graph given read)⟩

end Setting

namespace Drawing

variable {ι : Type}

/-- A full pass that fails on a rectangle has come to a graph that has it. -/
theorem exists_unread_of_error {drawing : Drawing ι} {fits : Nat → Nat → Bool}
    {document : Document} {palettes : Palettes} {name value : String}
    (failed : (drawing.pass fits document palettes true).error =
      some (.seed (.unreadable name "bb" value))) :
    ∃ id, document.scene.attr? (.graph id) "bb" = some value ∧
      ∀ r, Seed.edges? value.toList ≠ some r := by
  by_cases takes : fits (drawing.canvasSize document).1 (drawing.canvasSize document).2 = true
  · obtain ⟨found, rest, -, -, ⟨done, -⟩ | ⟨fault, entity, others, error, -, unseeded⟩⟩ :=
      exists_covers palettes takes
    · cases failed.symm.trans done
    · cases failed.symm.trans error
      obtain ⟨attr, given, unread⟩ := unseeded.of_unreadable
      cases entity with
      | graph id =>
        refine ⟨id, given, fun r read => ?_⟩
        simp only [Setting.readSeed?, read, Option.map_some] at unread
        cases unread
      | node id => exact absurd attr (by simp [Seed.attrName])
      | edge id => exact absurd attr (by simp [Seed.attrName])
  · have refused := congrArg Outcome.error (draw_of_not_fits palettes takes)
    cases failed.symm.trans refused

/-- A value of the rectangle gives the document its extent exactly if it gives the root graph a
seed, as long as it does not go on behind its fourth number. In a document that has been read, the
rectangle of the root graph gave the document its extent, or it is reported; if it is not reported
and does not go on, then no full pass fails on it. -/
theorem root_box_read_alike_iff (setting : Setting ι) {value : String}
    (given : setting.scene.attr? (.graph Scene.root) "bb" = some value) :
    (((∃ width height, Metadata.Takes value width height) ↔
        ∃ box, setting.seed (.graph Scene.root) = .ok box) ↔
      ¬ Metadata.Overlong value.toList) ∧
    ∀ (reading : Palettes) (text : String),
      Document.read reading text = .ok setting.document →
      (Metadata.Takes value setting.document.metadata.width setting.document.metadata.height ∨
        Diagnostic.invalidAttribute "bb" value ∈ setting.document.diagnostics) ∧
      (Diagnostic.invalidAttribute "bb" value ∉ setting.document.diagnostics →
        ¬ Metadata.Overlong value.toList →
        ∀ (drawing : Drawing ι) (fits : Nat → Nat → Bool) (palettes : Palettes) (name : String),
          (drawing.pass fits setting.document palettes true).error ≠
            some (.seed (.unreadable name "bb" value))) := by
  constructor
  · simp only [Metadata.takes_iff, Setting.exists_seed_graph_iff given]
    exact Seed.edges_iff_extent_iff value.toList
  · intro reading text read
    have accounted := Document.accounted_of_read read given
    constructor
    · cases accounted with
      | taken taken => exact .inl (Metadata.takes_iff.mpr taken)
      | reported unread listed => exact .inr listed
    · intro accepted short drawing fits palettes name failed
      obtain ⟨id, -, unread⟩ := exists_unread_of_error failed
      cases accounted with
      | taken taken =>
        obtain ⟨r, edges⟩ := ((Seed.edges_iff_extent_iff value.toList).mpr short).mp ⟨_, _, taken⟩
        exact unread r edges
      | reported unread listed => exact accepted listed

/-- Four numbers with blanks around them, for a graph that is drawn and one inside it. -/
theorem root_box_read_alike_iff_spaced :
    let text := "graph G \x7b graph [bb=\" 0,0 , 7.2e1,36\", _draw_=\"E 9 9 1 1\"]; " ++
      "subgraph s \x7b graph [_draw_=\"E 9 9 1 1\"] \x7d \x7d"
    let value := " 0,0 , 7.2e1,36"
    ∃ document, Document.read .minimal text = .ok document ∧
      document.scene.attr? (.graph Scene.root) "bb" = some value ∧
      Metadata.Takes value document.metadata.width document.metadata.height ∧
      ∀ (drawing : Drawing Unit) (fits : Nat → Nat → Bool) (name : String),
        (drawing.pass fits document .minimal true).error ≠
          some (.seed (.unreadable name "bb" value)) := by
  intro text value
  let root : RootStatement := ⟨false, .undirected, "G"⟩
  let statements : List String :=
    ["graph [bb=\" 0,0 , 7.2e1,36\", _draw_=\"E 9 9 1 1\"]", "subgraph s \x7b",
      "graph [_draw_=\"E 9 9 1 1\"]", "\x7d", "\x7d"]
  have found : Document.findRoot? (statementTexts text.toList) =
      some ([], root, statements.map String.toList) := by decide +kernel
  let document : Document :=
    .finish ((Assembly.start root []).run .minimal (statements.map String.toList))
  have read : Document.read .minimal text = .ok document := by rw [Document.read, found]
  let setting : Setting Unit := (Drawing.new {}).setting document .minimal
  have given : setting.scene.attr? (.graph Scene.root) "bb" = some value := by decide +kernel
  have silent : document.diagnostics = [] := by decide +kernel
  have short : ¬ Metadata.Overlong value.toList := by
    rintro ⟨numbers, row, more⟩
    have length := row.length_eq
    have four : (fields ',' value.toList).length = 4 := by decide +kernel
    omega
  obtain ⟨taken, safe⟩ := (root_box_read_alike_iff setting given).2 .minimal text read
  have unreported : Diagnostic.invalidAttribute "bb" value ∉ document.diagnostics := by
    rw [silent]
    exact List.not_mem_nil
  exact ⟨document, read, given, taken.resolve_right unreported,
    fun drawing fits name => safe unreported short drawing fits .minimal name⟩

/-- Behind four numbers stands a fifth: the extent is taken without a report, and the full pass
fails on the value. -/
theorem not_root_box_read_alike_fiveNumbers :
    let text := "digraph G \x7b graph [bb=\"0,0,72,72,9\", _draw_=\"c 3 -red\"]; \x7d"
    ∃ document, Document.read .minimal text = .ok document ∧
      document.scene.attr? (.graph Scene.root) "bb" = some "0,0,72,72,9" ∧
      document.diagnostics = [] ∧ document.metadata.width = 72.0 ∧
      ((Drawing.new {} : Drawing Unit).pass (fun _ _ => true) document .minimal true).error =
        some (.seed (.unreadable "G" "bb" "0,0,72,72,9")) := by
  intro text
  let root : RootStatement := ⟨false, .directed, "G"⟩
  let statements : List String := ["graph [bb=\"0,0,72,72,9\", _draw_=\"c 3 -red\"]", "\x7d"]
  have found : Document.findRoot? (statementTexts text.toList) =
      some ([], root, statements.map String.toList) := by decide +kernel
  let document : Document :=
    .finish ((Assembly.start root []).run .minimal (statements.map String.toList))
  have read : Document.read .minimal text = .ok document := by rw [Document.read, found]
  exact ⟨document, read, by decide +kernel, by decide +kernel, by decide +kernel,
    by decide +kernel⟩

end Drawing
end XdotViewer
