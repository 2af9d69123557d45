import XdotViewer.Proofs.Scene.Building
import XdotViewer.Scene.Escape

/-! # Expanded attributes

Escape sequences in an attribute value are replaced in one go from left to right: what is put in is
not looked at again, and what no letter stands for is copied. The label is expanded before it is put
in, with its own mention left as it is, so a label that mentions itself does no harm.
-/

namespace XdotViewer.Scene

variable {s : Scene} {r : EntityRef}

/-- A text and its expansion: a backslash is replaced together with a letter that stands for
something, and every other character is copied. -/
inductive Expands (stands : Char → String → Prop) : List Char → List Char → Prop
  | nil : Expands stands [] []
  | escape {code : Char} {text : String} {rest out : List Char} :
    stands code text → Expands stands rest out →
    Expands stands ('\\' :: code :: rest) (text.toList ++ out)
  | copy {c : Char} {rest out : List Char} :
    (∀ code tail text, c = '\\' → rest = code :: tail → ¬ stands code text) →
    Expands stands rest out → Expands stands (c :: rest) (c :: out)

/-- What a letter stands for, the label aside. -/
inductive Names (s : Scene) : EntityRef → Char → String → Prop
  | graph {r : EntityRef} {id : GraphId} {g : Graph} :
    s.nearestGraph? r = some id → s.graph? id = some g → Names s r 'G' g.entity.name
  | node {id : NodeId} {n : Node} : s.node? id = some n → Names s (.node id) 'N' n.entity.name
  | edge {id : EdgeId} {e : Edge} : s.edge? id = some e → Names s (.edge id) 'E' e.entity.name
  | tail {id : EdgeId} {e : Edge} : s.edge? id = some e → Names s (.edge id) 'T' e.tail
  | head {id : EdgeId} {e : Edge} : s.edge? id = some e → Names s (.edge id) 'H' e.head

/-- What a letter stands for. In the label no letter stands for the label. -/
inductive StandsFor (s : Scene) (r : EntityRef) : Char → String → Prop
  | name {code : Char} {text : String} : s.Names r code text → StandsFor s r code text
  | label {label : String} {out : List Char} :
    s.attr? r "label" = some label → Expands (s.Names r) label.toList out →
    StandsFor s r 'L' (String.ofList out)
  | unlabelled : s.attr? r "label" = none → StandsFor s r 'L' ""

/-- The letters that stand for something where an entity of the kind is at hand. -/
def escapeLetters : EntityRef → List Char
  | .graph _ => ['G', 'L']
  | .node _ => ['N', 'G', 'L']
  | .edge _ => ['E', 'G', 'T', 'H', 'L']

section Substituting

variable {stands : Char → String → Prop} {meaning : Char → Option String} {text : List Char}

private theorem substitute_of_no_pair {c : Char} {rest : List Char}
    (single : ∀ code tail, c = '\\' → rest = code :: tail → meaning code = none) :
    substitute meaning (c :: rest) = c :: substitute meaning rest := by
  by_cases pair : ∃ code tail, c = '\\' ∧ rest = code :: tail
  · obtain ⟨code, tail, rfl, rfl⟩ := pair
    rw [substitute, single code tail rfl rfl]
  · rw [substitute]
    intro code tail same more
    exact pair ⟨code, tail, same, more⟩

private theorem substitute_pair {code : Char} {inserted : String}
    (known : meaning code = some inserted)
    (rest : List Char) :
    substitute meaning ('\\' :: code :: rest) = inserted.toList ++ substitute meaning rest := by
  rw [substitute, known]

/-- Replacing escape sequences is the only way to expand a text. -/
theorem expands_iff {out : List Char}
    (agrees : ∀ code inserted, stands code inserted ↔ meaning code = some inserted) :
    Expands stands text out ↔ out = substitute meaning text := by
  constructor
  · intro expands
    induction expands with
    | nil => rw [substitute]
    | escape known _ ih => rw [substitute_pair ((agrees _ _).mp known), ih]
    | @copy c rest out single _ ih =>
      rw [substitute_of_no_pair, ih]
      intro code tail same more
      by_contra known
      obtain ⟨inserted, known⟩ := Option.ne_none_iff_exists'.mp known
      exact single code tail inserted same more ((agrees _ _).mpr known)
  · rintro rfl
    fun_induction substitute meaning text with
    | case1 code rest inserted known ih => exact .escape ((agrees _ _).mpr known) ih
    | case2 code rest unknown ih =>
      refine .copy ?_ ih
      rintro _ _ inserted - ⟨⟩ stood
      rw [(agrees _ _).mp stood] at unknown
      cases unknown
    | case3 c rest other ih =>
      exact .copy (fun code tail _ same more => absurd more (other code tail same)) ih
    | case4 => exact .nil

/-- What is put in is not looked at again, and no pair reaches over the end of a text that does not
end in a backslash. -/
theorem substitute_append {front : List Char} (whole : front.getLast? ≠ some '\\')
    (back : List Char) :
    substitute meaning (front ++ back) = substitute meaning front ++ substitute meaning back := by
  fun_induction substitute meaning front with
  | case1 code rest inserted known ih =>
    have later : rest.getLast? ≠ some '\\' := by
      cases rest with
      | nil => simp
      | cons first others => simpa using whole
    rw [List.cons_append, List.cons_append, substitute_pair known, ih later, List.append_assoc]
  | case2 code rest unknown ih =>
    have later : (code :: rest).getLast? ≠ some '\\' := by simpa using whole
    rw [List.cons_append, List.cons_append, substitute_of_no_pair, ← List.cons_append, ih later,
      List.cons_append]
    rintro _ _ - ⟨⟩
    exact unknown
  | case3 c rest other ih =>
    have different : c ≠ '\\' := by
      rintro rfl
      cases rest with
      | nil => exact whole rfl
      | cons code tail => exact other code tail rfl rfl
    have later : rest.getLast? ≠ some '\\' := by
      cases rest with
      | nil => simp
      | cons first others => simpa using whole
    rw [List.cons_append, substitute_of_no_pair, ih later, List.cons_append]
    exact fun _ _ same _ => absurd same different
  | case4 => rfl

end Substituting

section Meanings

private theorem exists_nearestGraph (there : s.holds r)
    (nested : ∀ id, s.container? r = some id → s.holds (.graph id)) :
    ∃ id g, s.nearestGraph? r = some id ∧ s.graph? id = some g := by
  cases r with
  | graph id =>
    obtain ⟨g, known⟩ := exists_graph?_of_holds there
    exact ⟨id, g, rfl, known⟩
  | node id =>
    rw [holds, entity?, Option.isSome_map, Option.isSome_iff_exists] at there
    obtain ⟨n, known⟩ := there
    have around : s.container? (.node id) = some n.container := congrArg (Option.map _) known
    obtain ⟨g, outer⟩ := exists_graph?_of_holds (nested _ around)
    exact ⟨_, g, around, outer⟩
  | edge id =>
    rw [holds, entity?, Option.isSome_map, Option.isSome_iff_exists] at there
    obtain ⟨e, known⟩ := there
    have around : s.container? (.edge id) = some e.container := congrArg (Option.map _) known
    obtain ⟨g, outer⟩ := exists_graph?_of_holds (nested _ around)
    exact ⟨_, g, around, outer⟩

/-- The names that escape sequences stand for are there where the entity and its graph are. -/
theorem names_iff (there : s.holds r)
    (nested : ∀ id, s.container? r = some id → s.holds (.graph id)) (code : Char) (text : String) :
    s.Names r code text ↔ s.nameMeaning r code = some text := by
  constructor
  · intro names
    cases names with
    | graph nearest found => simp [nameMeaning, graphName, nearest, found]
    | node found => simp [nameMeaning, nameOf, entity?, found]
    | edge found => simp [nameMeaning, nameOf, entity?, found]
    | tail found => simp [nameMeaning, found]
    | head found => simp [nameMeaning, found]
  · intro known
    rw [holds, Option.isSome_iff_exists] at there
    obtain ⟨entity, present⟩ := there
    unfold nameMeaning at known
    split at known
    · have there : s.holds r := by rw [holds, present, Option.isSome_some]
      obtain ⟨id, g, nearest, found⟩ := exists_nearestGraph there nested
      rw [graphName, nearest, Option.bind_some, found] at known
      cases known
      exact .graph nearest found
    · obtain ⟨n, found, rfl⟩ := Option.map_eq_some_iff.mp present
      rw [nameOf, present] at known
      cases known
      exact .node found
    · obtain ⟨e, found, rfl⟩ := Option.map_eq_some_iff.mp present
      rw [nameOf, present] at known
      cases known
      exact .edge found
    · obtain ⟨e, found, rfl⟩ := Option.map_eq_some_iff.mp known
      exact .tail found
    · obtain ⟨e, found, rfl⟩ := Option.map_eq_some_iff.mp known
      exact .head found
    · cases known

private theorem standsFor_iff (there : s.holds r)
    (nested : ∀ id, s.container? r = some id → s.holds (.graph id)) (code : Char) (text : String) :
    s.StandsFor r code text ↔ s.meaning r code = some text := by
  have agrees := names_iff there nested
  constructor
  · intro stands
    cases stands with
    | @name code text names =>
      have other : code ≠ 'L' := by
        rintro rfl
        cases names
      rw [meaning, if_neg other, ← agrees]
      exact names
    | label labelled expands =>
      rw [meaning, if_pos rfl, labelText, labelled, (expands_iff agrees).mp expands]
    | unlabelled bare => rw [meaning, if_pos rfl, labelText, bare]
  · intro known
    by_cases label : code = 'L'
    · subst label
      rw [meaning, if_pos rfl, labelText] at known
      cases labelled : s.attr? r "label" with
      | none =>
        rw [labelled] at known
        cases known
        exact .unlabelled labelled
      | some value =>
        rw [labelled] at known
        cases known
        exact .label labelled ((expands_iff agrees).mpr rfl)
    · rw [meaning, if_neg label] at known
      exact .name ((agrees code text).mpr known)

/-- Which letters stand for something is a matter of the kind of the entity. -/
theorem isSome_meaning_iff (there : s.holds r) (code : Char) :
    (s.meaning r code).isSome ↔ code ∈ escapeLetters r := by
  by_cases label : code = 'L'
  · subst label
    cases r <;> simp [meaning, escapeLetters]
  · rw [meaning, if_neg label]
    cases r with
    | graph id =>
      by_cases graph : code = 'G' <;> simp [nameMeaning, escapeLetters, label, graph]
    | node id =>
      unfold nameMeaning
      split <;> simp_all [escapeLetters]
    | edge id =>
      have found : (s.edge? id).isSome := by
        rwa [holds, entity?, Option.isSome_map] at there
      unfold nameMeaning
      split <;> simp_all [escapeLetters]

end Meanings

/-- The letters that stand for something are those of the kind of the entity, and a text has one
expansion. Of two texts in a row, the first without a backslash at its end, each is expanded on its
own. -/
theorem attrExpanded?_of_holds (there : s.holds r)
    (nested : ∀ id, s.container? r = some id → s.holds (.graph id)) :
    (∀ name, s.attrExpanded? r name = (s.attr? r name).map (s.expand r)) ∧
      (∀ value other, Expands (s.StandsFor r) value.toList other ↔
        other = (s.expand r value).toList) ∧
      (∀ code, (∃ text, s.StandsFor r code text) ↔ code ∈ escapeLetters r) ∧
      ∀ front back : String, front.toList.getLast? ≠ some '\\' →
        s.expand r (front ++ back) = s.expand r front ++ s.expand r back := by
  have agrees := standsFor_iff there nested
  refine ⟨fun name => rfl, fun value other => ?_, fun code => ?_, fun front back whole => ?_⟩
  · rw [expand, String.toList_ofList]
    exact expands_iff agrees
  · simp only [agrees, ← Option.isSome_iff_exists]
    exact isSome_meaning_iff there code
  · rw [expand, String.toList_append, substitute_append whole, String.ofList_append]
    rfl

/-- A scene whose names hold escape sequences. The label of the node mentions itself. -/
def signs : Scene :=
  let start := (new "\\N" false .directed).insertAttr (.nodeDefaults root) "label" "\\L of \\N"
  (start.addNode root "\\G").1

/-- The names that are put in are not expanded again, and the label mentions itself in vain. -/
theorem attrExpanded?_of_holds_signs :
    signs.Built ∧ signs.holds (.node ⟨0⟩) ∧
      (∀ id, signs.container? (.node ⟨0⟩) = some id → signs.holds (.graph id)) ∧
      signs.attrExpanded? (.node ⟨0⟩) "label" = some "\\L of \\G of \\G" ∧
      Expands (signs.StandsFor (.node ⟨0⟩)) "\\L in \\G\\".toList "\\L of \\G in \\N\\".toList := by
  have built : signs.Built :=
    .addNode "\\G" (.insertAttr _ "label" "\\L of \\N" (.new "\\N" false .directed)) (by decide)
  have there : signs.holds (.node ⟨0⟩) := by decide
  have nested (id : GraphId) (inside : signs.container? (.node ⟨0⟩) = some id) :=
    built.arranged.holds_container there inside
  obtain ⟨found, expanded, -⟩ := attrExpanded?_of_holds there nested
  refine ⟨built, there, nested, (found "label").trans ?_, (expanded _ _).mpr ?_⟩
  · decide +kernel
  · decide +kernel

end XdotViewer.Scene
