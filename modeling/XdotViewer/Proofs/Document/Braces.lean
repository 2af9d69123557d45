import XdotViewer.Document
import XdotViewer.Proofs.Document.Openers

/-! # Braces and open graphs

A statement with a brace at its end opens a graph only if it is read as a subgraph, whereas every
closing brace closes one. The braces of a document therefore decide what contains what exactly if
every opener is read: each one that is not takes a graph from those that are open around it.
-/

namespace XdotViewer

/-- Statements where every opener, read or not, has its own closing brace. -/
inductive Balanced : List (List Char) → Prop
  | nil : Balanced []
  | plain {text : List Char} {rest : List (List Char)} : ¬ opensBlock text → text ≠ ['}'] →
      Balanced rest → Balanced (text :: rest)
  | block {opener : List Char} {inner rest : List (List Char)} : opensBlock opener →
      Balanced inner → Balanced rest → Balanced (opener :: inner ++ ['}'] :: rest)

/-- An opener with everything up to its own closing brace. -/
def IsBlock (texts : List (List Char)) : Prop :=
  ∃ opener inner, opensBlock opener ∧ Balanced inner ∧ texts = opener :: inner ++ [['}']]

private theorem IsBlock.balanced {texts : List (List Char)} (block : IsBlock texts) :
    Balanced texts := by
  obtain ⟨opener, inner, opens, balanced, rfl⟩ := block
  exact .block opens balanced .nil

/-- An opener that does not begin a subgraph in any way that can be read. -/
def UnreadOpener (text : List Char) : Prop :=
  opensBlock text ∧ Statement.read? text = none

instance (text : List Char) : Decidable (UnreadOpener text) :=
  inferInstanceAs (Decidable (_ ∧ _))

def unreadOpeners (texts : List (List Char)) : Nat :=
  texts.countP fun text => decide (UnreadOpener text)

/-- No opener is unread exactly if all of them can be read. -/
theorem unreadOpeners_eq_zero {texts : List (List Char)} :
    unreadOpeners texts = 0 ↔ ∀ text ∈ texts, opensBlock text → Statement.read? text ≠ none := by
  simp only [unreadOpeners, List.countP_eq_zero, decide_eq_true_eq]
  exact forall₂_congr fun text _ => not_and

namespace Statement

open Reading

/-- A statement about what is inside a graph: one that opens and closes none. -/
def IsContent : Statement → Prop
  | .close => False
  | .subgraph _ => False
  | .edge .. => True
  | .attributes .. => True
  | .assign .. => True

/-- Every way reads a statement about what is inside a graph. -/
def Describes (reading : Reading Statement) : Prop :=
  ∀ text, ∀ way ∈ reading text, way.1.IsContent

private theorem describes_pure {statement : Statement} (content : statement.IsContent) :
    Describes (pure statement) := by
  intro text way member
  obtain rfl := List.mem_singleton.mp member
  exact content

private theorem describes_bind {α : Type} {reading : Reading α} {next : α → Reading Statement}
    (rest : ∀ a, Describes (next a)) : Describes (reading >>= next) := by
  intro text way member
  obtain ⟨first, _, member⟩ := mem_bind.mp member
  exact rest _ _ _ member

private theorem describes_edgeStatement : Describes edgeStatement :=
  describes_bind fun _ => describes_bind fun _ => describes_bind fun _ => describes_bind fun _ =>
    describes_bind fun _ => describes_bind fun _ => describes_pure trivial

private theorem describes_attributeStatement : Describes attributeStatement :=
  describes_bind fun _ => describes_bind fun _ => describes_pure trivial

private theorem describes_assignment : Describes assignment :=
  describes_bind fun _ => describes_bind fun _ => describes_bind fun _ => describes_bind fun _ =>
    describes_bind fun _ => describes_bind fun _ => describes_pure trivial

private theorem Describes.of_whole? {reading : Reading Statement} (describes : Describes reading)
    {text : List Char} {statement : Statement} (read : whole? reading text = some statement) :
    statement.IsContent :=
  describes _ _ (mem_of_whole? read)

/-- Without a brace of its own a statement opens and closes no graph. -/
theorem isContent_of_read? {text : List Char} {statement : Statement} (plain : ¬ opensBlock text)
    (other : text ≠ ['}']) (read : read? text = some statement) : statement.IsContent := by
  simp only [read?, if_neg other, subgraphStatement_eq_none plain, Option.orElse_eq_orElse,
    Option.orElse_eq_or, Option.none_or, Option.or_eq_some_iff] at read
  rcases read with edge | ⟨_, attributes | ⟨_, assigned⟩⟩
  · exact describes_edgeStatement.of_whole? edge
  · exact describes_attributeStatement.of_whole? attributes
  · exact describes_assignment.of_whole? assigned

/-- What is read off an opener is a subgraph. -/
theorem eq_subgraph_of_read? {text : List Char} {statement : Statement} (opens : opensBlock text)
    (read : read? text = some statement) : ∃ name, statement = .subgraph name := by
  rw [read?_of_opensBlock opens] at read
  exact (of_mem_subgraphStatement (mem_of_whole? read)).2

end Statement

namespace Assembly

variable {palettes : Palettes} {assembly : Assembly} {text : List Char}

section Steps

/-- Setting an attribute opens and closes nothing. -/
theorem openGraphs_setAttr (slot : AttrSlot) (attr : String × String) :
    (setAttr palettes slot assembly attr).openGraphs = assembly.openGraphs := by
  unfold setAttr
  simp only
  split
  · rfl
  · split <;> rfl

private theorem openGraphs_setAttrs (slot : AttrSlot) (attrs : List (String × String)) :
    (attrs.foldl (setAttr palettes slot) assembly).openGraphs = assembly.openGraphs := by
  induction attrs generalizing assembly with
  | nil => rfl
  | cons attr rest ih => exact ih.trans (openGraphs_setAttr slot attr)

/-- A list of attributes opens and closes nothing. -/
theorem openGraphs_applyList? (slot : AttrSlot) (list : Option (List Char)) :
    (assembly.applyList? palettes slot list).openGraphs = assembly.openGraphs := by
  cases list with
  | none => rfl
  | some list =>
    unfold applyList? applyList
    simp only
    split
    · exact openGraphs_setAttrs slot _
    · exact openGraphs_setAttrs slot _

/-- A statement that is no opener opens and closes nothing. -/
theorem openGraphs_perform {container : GraphId} {statement : Statement}
    (content : statement.IsContent) :
    (assembly.perform palettes container statement).openGraphs = assembly.openGraphs := by
  cases statement with
  | close => cases content
  | subgraph name => cases content
  | edge tail head list => exact openGraphs_applyList? _ list
  | attributes subject list => exact openGraphs_applyList? _ list
  | assign name value => exact openGraphs_setAttr _ _

private theorem openGraphs_step_plain (plain : ¬ opensBlock text) (other : text ≠ ['}']) :
    (step palettes assembly text).openGraphs = assembly.openGraphs := by
  unfold step
  split
  · rfl
  · split
    · rename_i read
      exact openGraphs_perform (Statement.isContent_of_read? plain other read)
    · rfl

/-- A closing brace closes the innermost open graph. -/
theorem openGraphs_step_closing :
    (step palettes assembly ['}']).openGraphs = assembly.openGraphs.tail := by
  unfold step
  split
  · rename_i closed
    rw [closed, List.tail_nil]
  · rfl

private theorem openGraphs_step_unread (unread : Statement.read? text = none) :
    (step palettes assembly text).openGraphs = assembly.openGraphs := by
  unfold step
  split
  · rfl
  · rw [unread]
    rfl

/-- An opener that is read opens a graph. -/
theorem openGraphs_step_opener (palettes : Palettes) (opened : assembly.openGraphs ≠ [])
    (opens : opensBlock text) (read : Statement.read? text ≠ none) :
    ∃ id, (step palettes assembly text).openGraphs = id :: assembly.openGraphs := by
  obtain ⟨statement, found⟩ := Option.ne_none_iff_exists'.mp read
  obtain ⟨name, rfl⟩ := Statement.eq_subgraph_of_read? opens found
  unfold step
  split
  · rename_i closed
    exact absurd closed opened
  · rw [found]
    exact ⟨_, rfl⟩

end Steps

section Runs

variable {texts : List (List Char)}

/-- Balanced statements leave as many open graphs fewer as they have openers that are not read. -/
theorem openGraphs_run_balanced (balanced : Balanced texts) (assembly : Assembly) :
    (assembly.run palettes texts).openGraphs = assembly.openGraphs.drop (unreadOpeners texts) := by
  induction balanced generalizing assembly with
  | nil => rfl
  | @plain text rest plain other _ ih =>
    have counted : unreadOpeners (text :: rest) = unreadOpeners rest := by
      simp [unreadOpeners, UnreadOpener, plain]
    rw [run_cons, ih, openGraphs_step_plain plain other, counted]
  | @block opener inner rest opens _ _ ihInner ihRest =>
    by_cases closed : assembly.openGraphs = []
    · rw [run_of_closed closed, closed, List.drop_nil]
    have closing : ¬ UnreadOpener ['}'] := by decide
    have counted : unreadOpeners (opener :: inner ++ ['}'] :: rest) =
        unreadOpeners [opener] + unreadOpeners inner + unreadOpeners rest := by
      simp [unreadOpeners, List.countP_cons, closing]
      omega
    rw [List.cons_append, run_cons, run_append, run_cons, ihRest, openGraphs_step_closing, ihInner,
      ← List.drop_one, List.drop_drop, List.drop_drop, ← List.cons_append, counted]
    by_cases read : Statement.read? opener = none
    · -- the closing brace takes one of the graphs around
      have one : unreadOpeners [opener] = 1 := by
        simp [unreadOpeners, UnreadOpener, opens, read]
      rw [openGraphs_step_unread read, one]
      congr 1
      omega
    · have zero : unreadOpeners [opener] = 0 := by
        simp [unreadOpeners, UnreadOpener, read]
      obtain ⟨id, opened⟩ := openGraphs_step_opener palettes closed opens read
      rw [opened, zero, show unreadOpeners inner + (1 + unreadOpeners rest) =
        0 + unreadOpeners inner + unreadOpeners rest + 1 by omega, List.drop_succ_cons]

/-- Where every opener is read, the graphs around stay open all through balanced statements. -/
theorem suffix_run (balanced : Balanced texts)
    (read : ∀ text ∈ texts, opensBlock text → Statement.read? text ≠ none)
    {front : List (List Char)} (first : front <+: texts) (assembly : Assembly) :
    assembly.openGraphs <:+ (assembly.run palettes front).openGraphs := by
  induction balanced generalizing assembly front with
  | nil =>
    obtain rfl := List.prefix_nil.mp first
    exact List.suffix_rfl
  | @plain text rest plain other _ ih =>
    rcases List.prefix_cons_iff.mp first with rfl | ⟨more, rfl, inside⟩
    · exact List.suffix_rfl
    · have kept := ih (fun text member => read text (by simp [member])) inside
        (step palettes assembly text)
      rwa [openGraphs_step_plain plain other] at kept
  | @block opener inner rest opens balanced _ ihInner ihRest =>
    by_cases closed : assembly.openGraphs = []
    · exact closed ▸ List.nil_suffix
    have readInner : ∀ text ∈ inner, opensBlock text → Statement.read? text ≠ none :=
      fun text member => read text (by simp [member])
    have readRest : ∀ text ∈ rest, opensBlock text → Statement.read? text ≠ none :=
      fun text member => read text (by simp [member])
    obtain ⟨id, opened⟩ := openGraphs_step_opener palettes closed opens
      (read opener (by simp) opens)
    have entered : assembly.openGraphs <:+ (step palettes assembly opener).openGraphs :=
      opened ▸ List.suffix_cons id _
    rcases List.prefix_cons_iff.mp first with rfl | ⟨more, rfl, inside⟩
    · exact List.suffix_rfl
    rcases List.prefix_or_prefix_of_prefix inside (List.prefix_append inner _) with within | past
    · exact entered.trans (ihInner readInner within _)
    obtain ⟨after, rfl⟩ := past
    have within : inner <+: inner := List.prefix_rfl
    rcases List.prefix_cons_iff.mp ((List.prefix_append_right_inj inner).mp inside) with
      rfl | ⟨later, rfl, beyond⟩
    · rw [List.append_nil]
      exact entered.trans (ihInner readInner within _)
    · -- the closing brace leads back to the graphs that were open before the block
      have left := ihRest readRest beyond
        (step palettes ((step palettes assembly opener).run palettes inner) ['}'])
      rw [openGraphs_step_closing, openGraphs_run_balanced balanced,
        unreadOpeners_eq_zero.mpr readInner, List.drop_zero, opened, List.tail_cons] at left
      rwa [run_cons, run_append, run_cons]

end Runs

section Bodies

variable {body : List (List Char)}

/-- The statements inside a root graph are nested as their braces are. -/
structure FollowsBraces (palettes : Palettes) (root : RootStatement)
    (diagnostics : List Diagnostic) (body : List (List Char)) : Prop where
  /-- What follows a block is inside the same graphs as what stands before it. -/
  returns : ∀ before block after, body = before ++ block ++ after → IsBlock block →
    ((start root diagnostics).run palettes (before ++ block)).openGraphs =
      ((start root diagnostics).run palettes before).openGraphs
  /-- The root graph is open at every statement, so that none is passed over. -/
  holds : ∀ before, before <+: body →
    ((start root diagnostics).run palettes before).openGraphs.getLast? = some Scene.root
  /-- The brace after the body closes it. -/
  closes : ((start root diagnostics).run palettes (body ++ [['}']])).openGraphs = []

private theorem getLast?_of_suffix {front graphs : List GraphId} {last : GraphId}
    (suffix : front <:+ graphs) (ends : front.getLast? = some last) :
    graphs.getLast? = some last := by
  obtain ⟨before, rfl⟩ := suffix
  rw [List.getLast?_append, ends, Option.some_or]

private theorem followsBraces_of_read (palettes : Palettes) (root : RootStatement)
    (diagnostics : List Diagnostic) (balanced : Balanced body)
    (read : ∀ text ∈ body, opensBlock text → Statement.read? text ≠ none) :
    FollowsBraces palettes root diagnostics body where
  returns := by
    rintro before block after rfl isBlock
    have readBlock : ∀ text ∈ block, opensBlock text → Statement.read? text ≠ none :=
      fun text member => read text (by simp [member])
    rw [run_append, openGraphs_run_balanced isBlock.balanced,
      unreadOpeners_eq_zero.mpr readBlock, List.drop_zero]
  holds := fun _ first => getLast?_of_suffix (suffix_run balanced read first _) rfl
  closes := by
    rw [run_append]
    change (step palettes _ ['}']).openGraphs = []
    rw [openGraphs_step_closing, openGraphs_run_balanced balanced,
      unreadOpeners_eq_zero.mpr read]
    rfl

/-- A root graph is nested as its braces are exactly if every opener is read as a subgraph. -/
theorem followsBraces_iff (palettes : Palettes) (root : RootStatement)
    (diagnostics : List Diagnostic) (balanced : Balanced body) :
    FollowsBraces palettes root diagnostics body ↔
      ∀ text ∈ body, opensBlock text → Statement.read? text ≠ none := by
  refine ⟨fun follows => ?_, followsBraces_of_read palettes root diagnostics balanced⟩
  have open_at_end := follows.holds body List.prefix_rfl
  rw [openGraphs_run_balanced balanced] at open_at_end
  apply unreadOpeners_eq_zero.mp
  by_contra unread
  -- one graph is open around the body, and it is taken
  have none_left : (start root diagnostics).openGraphs.drop (unreadOpeners body) = [] :=
    List.drop_eq_nil_of_le (Nat.one_le_iff_ne_zero.mpr unread)
  rw [none_left] at open_at_end
  cases open_at_end

/-- A node in a braced group in a subgraph, and another one behind both. -/
theorem followsBraces_nestedGroups :
    Balanced ["subgraph a \x7b".toList, "\x7b".toList, "x".toList, ['}'], ['}'], "c".toList] ∧
      FollowsBraces .minimal ⟨false, .directed, "G"⟩ []
        ["subgraph a \x7b".toList, "\x7b".toList, "x".toList, ['}'], ['}'], "c".toList] := by
  have name (text : List Char) (plain : ¬ opensBlock text) (other : text ≠ ['}']) :
      Balanced [text] := .plain plain other .nil
  have inner : Balanced (["\x7b".toList, "x".toList] ++ [['}']]) :=
    .block (by decide) (name _ (by decide) (by decide)) .nil
  have balanced : Balanced ("subgraph a \x7b".toList :: ["\x7b".toList, "x".toList, ['}']] ++
      ['}'] :: ["c".toList]) :=
    .block (by decide) inner (name _ (by decide) (by decide))
  refine ⟨balanced, (followsBraces_iff _ _ _ balanced).mpr ?_⟩
  decide +kernel

/-- An edge to a group in braces: the group closes the root graph, and the node after it is lost. -/
theorem not_followsBraces_edgeToGroup :
    Document.findRoot? (statementTexts "digraph G \x7b a -> \x7b \x7d c; \x7d".toList) =
        some ([], ⟨false, .directed, "G"⟩, ["a -> \x7b".toList, ['}'], "c".toList] ++ [['}']]) ∧
      Balanced ["a -> \x7b".toList, ['}'], "c".toList] ∧
      ¬ FollowsBraces .minimal ⟨false, .directed, "G"⟩ []
        ["a -> \x7b".toList, ['}'], "c".toList] ∧
      (Document.read .minimal "digraph G \x7b a -> \x7b \x7d c; \x7d").toOption.map
        (fun document => document.scene.nodes.size) = some 0 := by
  have group : Balanced (["a -> \x7b".toList] ++ [['}']]) := .block (by decide) .nil .nil
  have balanced : Balanced (["a -> \x7b".toList] ++ ['}'] :: ["c".toList]) :=
    .block (by decide) .nil (.plain (by decide) (by decide) .nil)
  refine ⟨by decide +kernel, balanced, fun follows => ?_, by decide +kernel⟩
  have still_open := follows.holds (["a -> \x7b".toList] ++ [['}']]) ⟨["c".toList], rfl⟩
  have unread : unreadOpeners (["a -> \x7b".toList] ++ [['}']]) = 1 := by decide +kernel
  rw [openGraphs_run_balanced group, unread] at still_open
  cases still_open

end Bodies

end Assembly
end XdotViewer
