import XdotViewer.Proofs.Document.Bodies
import XdotViewer.Proofs.Scene.Inheritance

/-! # The order of root attributes

Each attribute of the root graph has its own part of the metadata, so in which order they are given
makes no difference, with one exception: a background color is resolved in the color scheme that
the root graph has at that moment. A scheme that is given behind the background comes too late for
it, so the order counts exactly if the color means something else in that scheme.
-/

namespace XdotViewer

/-- A color that is written out means the same in every scheme. -/
theorem Palettes.resolve_of_written {palettes : Palettes} {literal : String} {color : Color}
    (written : Palettes.written? literal.toList = some color) (scheme : Option String) :
    (palettes.resolve literal scheme).1 = color := by
  rw [resolve, written]

namespace Metadata

variable {palettes : Palettes} {scheme scheme' : Option String} {name name' value value' : String}
  {m : Metadata}

/-- The changes of the metadata that an attribute may bring about. -/
inductive Changes (palettes : Palettes) (scheme : Option String) (value : String) :
    String → (Metadata → Metadata) → Prop
  | nothing (name : String) : Changes palettes scheme value name id
  | extent (width height : Float) :
    Changes palettes scheme value "bb" fun m => { m with width, height }
  | background : Changes palettes scheme value "bgcolor" fun m =>
    { m with background := (palettes.resolve value scheme).1 }
  | resolution (dpi : Float) : Changes palettes scheme value "dpi" fun m => { m with dpi }
  | size (maxWidth maxHeight : Option Float) (enlarge : Bool) :
    Changes palettes scheme value "size" fun m => { m with maxWidth, maxHeight, enlarge }
  | version : Changes palettes scheme value "xdotversion" fun m => { m with version := value }

/-- Whether a value can be read does not hang on the metadata that it is for. -/
theorem exists_changes (palettes : Palettes) (scheme : Option String) (name value : String) :
    ∃ change, Changes palettes scheme value name change ∧
      ∀ m : Metadata, (m.update palettes scheme name value).1 = change m := by
  by_cases extents : name = "bb"
  · subst extents
    cases read : extent? value.toList with
    | none => exact ⟨_, .nothing _, fun m => by simp only [update, read]; rfl⟩
    | some extent => exact ⟨_, .extent extent.1 extent.2, fun m => by simp only [update, read]⟩
  by_cases backgrounds : name = "bgcolor"
  · subst backgrounds
    exact ⟨_, .background, fun m => rfl⟩
  by_cases resolutions : name = "dpi"
  · subst resolutions
    cases read : resolution? value.toList with
    | none => exact ⟨_, .nothing _, fun m => by simp only [update, read]; rfl⟩
    | some dpi => exact ⟨_, .resolution dpi, fun m => by simp only [update, read]⟩
  by_cases sizes : name = "size"
  · subst sizes
    cases read : size? value.toList with
    | none => exact ⟨_, .nothing _, fun m => by simp only [update, read]; rfl⟩
    | some size => exact ⟨_, .size (some size.1) (some size.2.1) size.2.2,
        fun m => by simp only [update, read]⟩
  by_cases versions : name = "xdotversion"
  · subst versions
    exact ⟨_, .version, fun m => rfl⟩
  · exact ⟨_, .nothing name, fun m => by simp only [update]; rfl⟩

/-- Attributes of different names change different parts of the metadata. -/
theorem update_comm (different : name ≠ name') :
    ((m.update palettes scheme name value).1.update palettes scheme' name' value').1 =
      ((m.update palettes scheme' name' value').1.update palettes scheme name value).1 := by
  obtain ⟨change, changes, eq⟩ := exists_changes palettes scheme name value
  obtain ⟨change', changes', eq'⟩ := exists_changes palettes scheme' name' value'
  rw [eq, eq', eq', eq]
  cases changes <;> cases changes' <;> first | rfl | exact absurd rfl different

private theorem background_update (other : name ≠ "bgcolor") :
    (m.update palettes scheme name value).1.background = m.background := by
  obtain ⟨change, changes, eq⟩ := exists_changes palettes scheme name value
  rw [eq]
  cases changes <;> first | rfl | exact absurd rfl other

/-- Only a background color is sought in the scheme. -/
theorem update_scheme (same : name = "bgcolor" →
    (palettes.resolve value scheme).1 = (palettes.resolve value scheme').1) :
    (m.update palettes scheme name value).1 = (m.update palettes scheme' name value).1 := by
  by_cases backgrounds : name = "bgcolor"
  · subst backgrounds
    exact congrArg (fun background => { m with background }) (same rfl)
  · unfold update
    simp only
    split
    · rfl
    · exact absurd rfl backgrounds
    · rfl
    · rfl
    · rfl
    · rfl

end Metadata

namespace Scene

/-- The own attributes of a graph are those stored with it. -/
theorem value?_own_graph (s : Scene) (id : GraphId) (name : String) :
    s.value? (.own (.graph id)) name = (s.stored? id).bind fun stored => stored.own.get? name := by
  rw [value?, attrMap?, entity?, stored?, Option.map_map, Option.bind_map, Option.bind_map]
  rfl

end Scene

/-- The slot of the attributes that may change the metadata. -/
def AttrSlot.root : AttrSlot :=
  .own (.graph Scene.root)

/-- What attributes of the root graph may change: the metadata, and the color scheme in which a
background is resolved. -/
structure Outlook where
  metadata : Metadata
  scheme : Option String

namespace Outlook

variable {palettes : Palettes} {o : Outlook} {x y : String × String}
  {attrs attrs' : List (String × String)}

/-- The outlook after the root graph has been given an attribute. -/
def give (palettes : Palettes) (o : Outlook) (attr : String × String) : Outlook :=
  if isDrawAttr attr.1 then o
  else
    { metadata := (o.metadata.update palettes o.scheme attr.1 attr.2).1
      scheme := if attr.1 = "colorscheme" then some attr.2 else o.scheme }

/-- A background color means the same in the scheme that is given as in the one before. -/
def Settled (palettes : Palettes) (o : Outlook) (attrs : List (String × String)) : Prop :=
  ∀ color scheme, ("bgcolor", color) ∈ attrs → ("colorscheme", scheme) ∈ attrs →
    (palettes.resolve color o.scheme).1 = (palettes.resolve color (some scheme)).1

private theorem scheme_give (other : x.1 ≠ "colorscheme") :
    (o.give palettes x).scheme = o.scheme := by
  unfold give
  split
  · rfl
  · rfl

private theorem background_give (other : x.1 ≠ "bgcolor") :
    (o.give palettes x).metadata.background = o.metadata.background := by
  unfold give
  split
  · rfl
  · exact Metadata.background_update other

private theorem give_colorscheme (palettes : Palettes) (o : Outlook) (scheme : String) :
    o.give palettes ("colorscheme", scheme) = ⟨o.metadata, some scheme⟩ := by
  have stored : ¬ isDrawAttr "colorscheme" = true := by decide +kernel
  rw [give, if_neg stored]
  rfl

/-- The scheme may be given before an attribute or behind it, if the value means the same in both
schemes. -/
theorem give_give_colorscheme {scheme : String} (other : y.1 ≠ "colorscheme")
    (same : y.1 = "bgcolor" →
      (palettes.resolve y.2 o.scheme).1 = (palettes.resolve y.2 (some scheme)).1) :
    (o.give palettes ("colorscheme", scheme)).give palettes y =
      (o.give palettes y).give palettes ("colorscheme", scheme) := by
  rw [give_colorscheme, give_colorscheme]
  unfold give
  split
  · rfl
  · rw [← Metadata.update_scheme same]

private theorem give_comm (different : x.1 ≠ y.1) (settled : o.Settled palettes [x, y]) :
    (o.give palettes x).give palettes y = (o.give palettes y).give palettes x := by
  obtain ⟨name, value⟩ := x
  obtain ⟨name', value'⟩ := y
  by_cases first : name = "colorscheme"
  · subst first
    refine give_give_colorscheme different.symm fun backgrounds => ?_
    obtain rfl : name' = "bgcolor" := backgrounds
    exact settled _ _ (by simp) (by simp)
  by_cases second : name' = "colorscheme"
  · subst second
    refine (give_give_colorscheme different fun backgrounds => ?_).symm
    obtain rfl : name = "bgcolor" := backgrounds
    exact settled _ _ (by simp) (by simp)
  · unfold give
    simp only [if_neg first, if_neg second]
    split <;> split
    · rfl
    · rfl
    · rfl
    · rw [Metadata.update_comm different]

private theorem Settled.of_cons (settled : o.Settled palettes (x :: attrs))
    (distinct : ((x :: attrs).map Prod.fst).Nodup) :
    (o.give palettes x).Settled palettes attrs := by
  intro color scheme background given
  have other : x.1 ≠ "colorscheme" := by
    rintro same
    exact (List.nodup_cons.mp distinct).1 (same ▸ List.mem_map_of_mem given)
  rw [scheme_give other]
  exact settled color scheme (List.mem_cons_of_mem x background) (List.mem_cons_of_mem x given)

/-- Attributes of different names may be given in any order, unless that changes what the
background color means. -/
theorem foldl_give_perm (perm : attrs.Perm attrs') (distinct : (attrs.map Prod.fst).Nodup)
    (settled : o.Settled palettes attrs) :
    attrs.foldl (give palettes) o = attrs'.foldl (give palettes) o := by
  induction perm generalizing o with
  | nil => rfl
  | cons x _ ih => exact ih (List.nodup_cons.mp distinct).2 (settled.of_cons distinct)
  | swap x y rest =>
    have different : y.1 ≠ x.1 := by
      rintro same
      simp [same] at distinct
    have pair : o.Settled palettes [y, x] := fun color scheme background given =>
      settled color scheme (List.mem_append_left rest background)
        (List.mem_append_left rest given)
    rw [List.foldl_cons, List.foldl_cons, give_comm different pair]
    rfl
  | trans first second ihFirst ihSecond =>
    have still : o.Settled palettes _ := fun color scheme background given =>
      settled color scheme (first.mem_iff.mpr background) (first.mem_iff.mpr given)
    exact (ihFirst distinct settled).trans
      (ihSecond ((first.map Prod.fst).nodup_iff.mp distinct) still)

private theorem background_foldl_give (absent : "bgcolor" ∉ attrs.map Prod.fst) :
    (attrs.foldl (give palettes) o).metadata.background = o.metadata.background := by
  induction attrs generalizing o with
  | nil => rfl
  | cons x rest ih =>
    rw [List.map_cons, List.mem_cons, not_or] at absent
    rw [List.foldl_cons, ih absent.2, background_give (Ne.symm absent.1)]

/-- A scheme behind the background color comes too late for it, one in front of it does not. -/
theorem background_give_both (palettes : Palettes) (o : Outlook) (color scheme : String) :
    ((o.give palettes ("bgcolor", color)).give palettes
        ("colorscheme", scheme)).metadata.background = (palettes.resolve color o.scheme).1 ∧
      ((o.give palettes ("colorscheme", scheme)).give palettes
        ("bgcolor", color)).metadata.background = (palettes.resolve color (some scheme)).1 := by
  have stored : ¬ isDrawAttr "bgcolor" = true := by decide +kernel
  simp only [give_colorscheme]
  unfold give
  simp only [if_neg stored]
  exact ⟨rfl, rfl⟩

/-- The order of the attributes does not count exactly if the background color is settled. -/
theorem settled_iff (distinct : (attrs.map Prod.fst).Nodup) :
    o.Settled palettes attrs ↔ ∀ others : List (String × String), others.Perm attrs →
      (others.foldl (give palettes) o).metadata = (attrs.foldl (give palettes) o).metadata := by
  constructor
  · intro settled others perm
    rw [foldl_give_perm perm.symm distinct settled]
  · intro free color scheme background given
    have second : ("colorscheme", scheme) ∈ attrs.erase ("bgcolor", color) :=
      (List.mem_erase_of_ne (by simp)).mpr given
    have whole := (List.perm_cons_erase background).trans ((List.perm_cons_erase second).cons _)
    generalize (attrs.erase ("bgcolor", color)).erase ("colorscheme", scheme) = rest at whole
    have absent : "bgcolor" ∉ rest.map Prod.fst := by
      have names := (whole.map Prod.fst).nodup_iff.mp distinct
      simp only [List.map_cons, List.nodup_cons, List.mem_cons, not_or] at names
      exact names.1.2
    have late := congrArg Metadata.background (free _ whole.symm)
    have early := congrArg Metadata.background
      (free _ ((List.Perm.swap ("bgcolor", color) ("colorscheme", scheme) rest).trans whole.symm))
    rw [List.foldl_cons, List.foldl_cons, background_foldl_give absent] at late early
    obtain ⟨behind, before⟩ := background_give_both palettes o color scheme
    rw [← behind, late, ← early, before]

end Outlook

namespace Assembly

variable {palettes : Palettes} {a b : Assembly} {strict : Bool} {kind : GraphKind}

/-- What attributes of the root graph may change in a document under construction. -/
def outlook (a : Assembly) : Outlook :=
  ⟨a.metadata, a.scene.value? .root "colorscheme"⟩

private theorem SameRoot.outlook_eq (same : a.SameRoot b) : a.outlook = b.outlook := by
  rw [outlook, AttrSlot.root, Scene.value?_own_graph, same.metadata, same.stored, outlook,
    AttrSlot.root, Scene.value?_own_graph]

section Attributes

private theorem setAttr_of_isDrawAttr {name : String} (draw : isDrawAttr name = true)
    (slot : AttrSlot)
    (value : String) : setAttr palettes slot a (name, value) =
      { a with scene := a.scene.insertDrawAttr slot.owner name value } :=
  if_pos draw

private theorem setAttr_root {name : String} (plain : ¬ isDrawAttr name = true) (value : String) :
    setAttr palettes .root a (name, value) =
      { a.updateMetadata palettes name value with
        scene := a.scene.insertAttr .root name value } := by
  unfold setAttr
  simp only [if_neg plain]
  rfl

private theorem setAttr_of_ne_root {slot : AttrSlot} {name : String}
    (plain : ¬ isDrawAttr name = true)
    (other : slot ≠ .root) (value : String) : setAttr palettes slot a (name, value) =
      { a with scene := a.scene.insertAttr slot name value } := by
  rw [AttrSlot.root] at other
  unfold setAttr
  simp only [if_neg plain, if_neg other]

/-- Only attributes of the root graph itself change the outlook. -/
theorem outlook_setAttr (sound : a.Sound strict kind) (slot : AttrSlot) (attr : String × String) :
    (setAttr palettes slot a attr).outlook =
      if slot = .root then a.outlook.give palettes attr else a.outlook := by
  obtain ⟨name, value⟩ := attr
  by_cases draw : isDrawAttr name = true
  · rw [setAttr_of_isDrawAttr draw, outlook, Scene.value?, Scene.attrMap?_insertDrawAttr,
      Outlook.give, if_pos draw, ite_self]
    rfl
  by_cases own : slot = .root
  · subst own
    obtain ⟨g, found, -⟩ := Option.map_eq_some_iff.mp sound.wellFormed.root.1
    have there : a.scene.attrMap? .root = some g.entity.attrs := by
      rw [AttrSlot.root, Scene.attrMap?, Scene.entity?, found]
      rfl
    have scheme : a.scene.attr? (.graph Scene.root) "colorscheme" = a.outlook.scheme := by
      rw [Scene.attr?_eq_of_outermost sound.toRooted]
      exact (Scene.value?_own_graph _ _ _).symm
    have given : (a.updateMetadata palettes name value).metadata =
        (a.metadata.update palettes a.outlook.scheme name value).1 := by
      rw [← scheme]
      rfl
    rw [setAttr_root draw, outlook, given, if_pos rfl, Outlook.give, if_neg draw]
    split
    · rename_i same
      obtain rfl : name = "colorscheme" := same
      rw [Scene.value?_insertAttr_self there]
      rfl
    · rename_i other
      rw [Scene.value?_insertAttr_of_ne (.inr (Ne.symm other))]
      rfl
  · rw [setAttr_of_ne_root draw own, outlook, Scene.value?_insertAttr_of_ne (.inl (Ne.symm own)),
      if_neg own]
    rfl

private theorem outlook_setAttrs (sound : a.Sound strict kind) (slot : AttrSlot)
    (attrs : List (String × String)) :
    (attrs.foldl (setAttr palettes slot) a).outlook =
      if slot = .root then attrs.foldl (Outlook.give palettes) a.outlook else a.outlook := by
  induction attrs generalizing a with
  | nil => simp
  | cons attr rest ih =>
    rw [List.foldl_cons, ih (sound.setAttr slot attr).1, outlook_setAttr sound]
    split <;> rfl

private theorem outlook_applyList (sound : a.Sound strict kind) (slot : AttrSlot)
    (list : List Char) :
    (a.applyList palettes slot list).outlook =
      if slot = .root then (Statement.pairs list).1.foldl (Outlook.give palettes) a.outlook
      else a.outlook := by
  rw [← outlook_setAttrs sound]
  unfold applyList
  simp only
  split <;> rfl

end Attributes

section Runs

private theorem outlook_step (palettes : Palettes) (same : a.outlook = b.outlook)
    (left : a.Sound strict kind) (right : b.Sound strict kind)
    (depth : a.openGraphs.length = b.openGraphs.length) (text : List Char) :
    (step palettes a text).outlook = (step palettes b text).outlook ∧
      (step palettes a text).openGraphs.length = (step palettes b text).openGraphs.length := by
  -- Whatever makes a new entity leaves the outlook of either document alone.
  have apart {after after' : Assembly} (first : a.SameRoot after) (second : b.SameRoot after') :
      after.outlook = after'.outlook :=
    first.outlook_eq.symm.trans (same.trans second.outlook_eq)
  have lists (slot : AttrSlot) (list : Option (List Char)) :
      (a.applyList? palettes slot list).outlook = (b.applyList? palettes slot list).outlook := by
    cases list with
    | none => exact same
    | some list =>
      exact (outlook_applyList left slot list).trans
        (same ▸ (outlook_applyList right slot list).symm)
  refine step_related palettes (fun a b => a.outlook = b.outlook) same left right depth
    (fun _ => same) (fun statement => ?_) (fun container container' statement inside inside' =>
      apart (sameRoot_perform left inside statement) (sameRoot_perform right inside' statement))
    text
  cases statement with
  | close => exact same
  | subgraph name => exact apart (sameRoot_subgraph left name) (sameRoot_subgraph right name)
  | edge tail head list => exact apart (sameRoot_edge tail head list) (sameRoot_edge tail head list)
  | attributes subject list =>
    cases subject with
    | graph => exact lists _ list
    | nodeDefaults => exact lists _ list
    | edgeDefaults => exact lists _ list
    | node name => exact apart (sameRoot_node name list) (sameRoot_node name list)
  | assign name value =>
    exact (outlook_setAttr left _ (name, value)).trans
      (same ▸ (outlook_setAttr right _ (name, value)).symm)

/-- What follows changes equal outlooks to equal outlooks. -/
theorem outlook_run (palettes : Palettes) (same : a.outlook = b.outlook)
    (left : a.Sound strict kind) (right : b.Sound strict kind)
    (depth : a.openGraphs.length = b.openGraphs.length) (texts : List (List Char)) :
    (a.run palettes texts).outlook = (b.run palettes texts).outlook := by
  induction texts generalizing a b with
  | nil => exact same
  | cons text rest ih =>
    obtain ⟨here, level⟩ := outlook_step palettes same left right depth text
    exact ih here (left.step text).1 (right.step text).1 level

/-- Statements that give attributes to the graph they stand in: one attribute list of a graph, or
assignments in a row. -/
inductive GivesAttrs : List (List Char) → List (String × String) → Prop
  | list {text : List Char} (list : List Char) {attrs : List (String × String)} :
    Statement.read? text = some (.attributes .graph (some list)) →
    (Statement.pairs list).1 = attrs → GivesAttrs [text] attrs
  | assignments {texts : List (List Char)} {attrs : List (String × String)} :
    List.Forall₂ (fun text attr => Statement.read? text = some (.assign attr.1 attr.2)) texts
      attrs → GivesAttrs texts attrs

/-- Attributes that are given inside the root graph itself change the outlook one by one. -/
theorem outlook_run_of_gives (palettes : Palettes) {texts : List (List Char)}
    {attrs : List (String × String)} (gives : GivesAttrs texts attrs) (sound : a.Sound strict kind)
    (inside : a.openGraphs = [Scene.root]) :
    (a.run palettes texts).outlook = attrs.foldl (Outlook.give palettes) a.outlook ∧
      (a.run palettes texts).openGraphs = [Scene.root] := by
  have performed {a : Assembly} (inside : a.openGraphs = [Scene.root]) {text : List Char}
      {statement : Statement} (read : Statement.read? text = some statement) :
      step palettes a text = a.perform palettes Scene.root statement := by
    unfold step
    rw [inside, read]
  cases gives with
  | list list read pairs =>
    subst pairs
    rw [run_cons, performed inside read]
    refine ⟨(outlook_applyList sound .root list).trans (if_pos rfl), ?_⟩
    exact (openGraphs_applyList? .root (some list)).trans inside
  | assignments reads =>
    induction reads generalizing a with
    | nil => exact ⟨rfl, inside⟩
    | @cons text attr texts attrs read _ ih =>
      have next : step palettes a text = setAttr palettes .root a attr := performed inside read
      rw [run_cons, next, List.foldl_cons]
      have level : (setAttr palettes .root a attr).openGraphs = [Scene.root] :=
        (openGraphs_setAttr .root attr).trans inside
      obtain ⟨later, still⟩ := ih (sound.setAttr .root attr).1 level
      rw [later, outlook_setAttr sound, if_pos rfl]
      exact ⟨rfl, still⟩

end Runs
end Assembly

namespace Document

open Assembly

/-- Where only the root graph is open, the order in which it is given attributes of different names
does not count for the metadata exactly if the background color is settled. Documents that differ
in that order only then have the same metadata. -/
theorem metadata_perm (palettes : Palettes) {front : List (List Char)}
    {reports : List Diagnostic} {root : RootStatement} {body : List (List Char)}
    {attrs : List (String × String)} (found : findRoot? front = some (reports, root, body))
    (inside : ((start root reports).run palettes body).openGraphs = [Scene.root])
    (distinct : (attrs.map Prod.fst).Nodup) :
    let above := (start root reports).run palettes body
    (above.outlook.Settled palettes attrs ↔ ∀ others : List (String × String), others.Perm attrs →
      (others.foldl (setAttr palettes .root) above).metadata =
        (attrs.foldl (setAttr palettes .root) above).metadata) ∧
    (above.outlook.Settled palettes attrs →
      ∀ (first second : String) (given given' back : List (List Char))
        (others : List (String × String)),
        statementTexts first.toList = front ++ given ++ back → GivesAttrs given attrs →
        statementTexts second.toList = front ++ given' ++ back → GivesAttrs given' others →
        others.Perm attrs →
        ∃ document document', read palettes first = .ok document ∧
          read palettes second = .ok document' ∧ document.metadata = document'.metadata) := by
  intro above
  have sound : above.Sound root.strict root.kind := ((sound_start root reports).run body).1
  refine ⟨?_, fun settled first second given given' back others texts gives texts' gives' perm =>
    ?_⟩
  · have stored (attrs : List (String × String)) :
        (attrs.foldl (setAttr palettes .root) above).metadata =
          (attrs.foldl (Outlook.give palettes) above.outlook).metadata :=
      congrArg Outlook.metadata ((outlook_setAttrs sound .root attrs).trans (if_pos rfl))
    simp only [stored]
    exact Outlook.settled_iff distinct
  · have opening (text : String) (block : List (List Char))
        (split : statementTexts text.toList = front ++ block ++ back) :
        read palettes text =
          .ok (finish ((above.run palettes block).run palettes back)) := by
      rw [read, split, findRoot?_append_of_some (findRoot?_append_of_some found block) back]
      simp only [run_append]
      rfl
    obtain ⟨here, level⟩ := outlook_run_of_gives palettes gives sound inside
    obtain ⟨here', level'⟩ := outlook_run_of_gives palettes gives' sound inside
    have same : (above.run palettes given).outlook = (above.run palettes given').outlook := by
      rw [here, here', Outlook.foldl_give_perm perm.symm distinct settled]
    have after := outlook_run palettes same (sound.run given).1 (sound.run given').1
      (by rw [level, level']) back
    exact ⟨_, _, opening first given texts, opening second given' texts',
      congrArg Outlook.metadata after⟩

/-- The scheme is given behind the background in a list, and in front of it by assignments. -/
theorem metadata_perm_hexColor :
    let attrs := [("bgcolor", "#0000ff"), ("dpi", "72"), ("colorscheme", "accent")]
    let first := "digraph G \x7b graph [bgcolor=\"#0000ff\", dpi=72, colorscheme=accent]; a \x7d"
    let second := "digraph G \x7b colorscheme=accent; bgcolor=\"#0000ff\"; dpi=72; a \x7d"
    findRoot? ["digraph G \x7b".toList] = some ([], ⟨false, .directed, "G"⟩, []) ∧
      (attrs.map Prod.fst).Nodup ∧
      (start ⟨false, .directed, "G"⟩ []).outlook.Settled .minimal attrs ∧
      ∃ document document', read .minimal first = .ok document ∧
        read .minimal second = .ok document' ∧ document.metadata = document'.metadata := by
  intro attrs first second
  have found : findRoot? ["digraph G \x7b".toList] = some ([], ⟨false, .directed, "G"⟩, []) := by
    decide +kernel
  have distinct : (attrs.map Prod.fst).Nodup := by decide
  have settled : (start ⟨false, .directed, "G"⟩ []).outlook.Settled .minimal attrs := by
    intro color scheme background _
    obtain rfl : color = "#0000ff" := by simpa [attrs] using background
    obtain ⟨blue, written⟩ : ∃ blue, Palettes.written? "#0000ff".toList = some blue :=
      Option.isSome_iff_exists.mp (by decide +kernel)
    rw [Palettes.resolve_of_written written, Palettes.resolve_of_written written]
  refine ⟨found, distinct, settled, ?_⟩
  have same := (metadata_perm .minimal found rfl distinct).2 settled first second
  refine same ["graph [bgcolor=\"#0000ff\", dpi=72, colorscheme=accent]".toList]
    ["colorscheme=accent".toList, "bgcolor=\"#0000ff\"".toList, "dpi=72".toList]
    ["a".toList, ['}']] [("colorscheme", "accent"), ("bgcolor", "#0000ff"), ("dpi", "72")]
    (by decide +kernel)
    (.list "bgcolor=\"#0000ff\", dpi=72, colorscheme=accent".toList (by decide +kernel)
      (by decide +kernel)) (by decide +kernel) ?_ (by decide)
  exact .assignments (.cons (by decide +kernel) (.cons (by decide +kernel)
    (.cons (by decide +kernel) .nil)))

/-- Two schemes with a red of their own. -/
def reds : Palettes :=
  (Palettes.minimal.register "x11" [("red", "ff0000")]).register "accent" [("red", "0000ff")]

/-- Behind the background the scheme comes too late for it. -/
theorem not_metadata_perm_lateScheme :
    let first := "digraph \x7b graph [colorscheme=accent, bgcolor=red]; \x7d"
    let second := "digraph \x7b graph [bgcolor=red, colorscheme=accent]; \x7d"
    let given := ["graph [colorscheme=accent, bgcolor=red]".toList]
    let given' := ["graph [bgcolor=red, colorscheme=accent]".toList]
    let attrs := [("colorscheme", "accent"), ("bgcolor", "red")]
    statementTexts first.toList = ["digraph \x7b".toList] ++ given ++ [['}']] ∧
      GivesAttrs given attrs ∧
      statementTexts second.toList = ["digraph \x7b".toList] ++ given' ++ [['}']] ∧
      GivesAttrs given' attrs.reverse ∧ (attrs.map Prod.fst).Nodup ∧
      ∃ document document', read reds first = .ok document ∧
        read reds second = .ok document' ∧ document.metadata ≠ document'.metadata := by
  intro first second given given' attrs
  refine ⟨by decide +kernel,
    .list "colorscheme=accent, bgcolor=red".toList (by decide +kernel) (by decide +kernel),
    by decide +kernel,
    .list "bgcolor=red, colorscheme=accent".toList (by decide +kernel) (by decide +kernel),
    by decide, ?_⟩
  have shown (text : String) (blue : UInt8)
      (shade : (read reds text).toOption.map (fun document => document.metadata.background.blue) =
        some blue) :
      ∃ document, read reds text = .ok document ∧ document.metadata.background.blue = blue := by
    cases done : read reds text with
    | error failure =>
      rw [done] at shade
      cases shade
    | ok document =>
      rw [done] at shade
      exact ⟨document, rfl, Option.some.inj shade⟩
  obtain ⟨document, done, blue⟩ := shown first 255 (by decide +kernel)
  obtain ⟨document', done', red⟩ := shown second 0 (by decide +kernel)
  refine ⟨document, document', done, done', fun same => ?_⟩
  rw [same, red] at blue
  cases blue

end Document
end XdotViewer
