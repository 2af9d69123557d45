import XdotViewer.Document.Assembly
import XdotViewer.Document.Lines

/-! # Documents

A document is read from text: the first statement that opens a root graph begins it, and everything
that cannot be read on the way is reported and passed over.
-/

namespace XdotViewer

structure Document where
  scene : Scene
  metadata : Metadata
  diagnostics : List Diagnostic

inductive ReadError where
  /-- No statement opens a root graph. -/
  | noGraph
deriving DecidableEq, Repr

def ReadError.message : ReadError → String
  | noGraph => "no graph statement found in xdot input"

namespace Document

/-- The statement that opens the root graph, with the reports on those before it and the ones
after it. -/
def findRoot? : List (List Char) → Option (List Diagnostic × RootStatement × List (List Char))
  | [] => none
  | text :: rest =>
    match RootStatement.read? text with
    | some root => some ([], root, rest)
    | none =>
      (findRoot? rest).map fun (diagnostics, found) =>
        (.expectedGraph (String.ofList text) :: diagnostics, found)

/-- Where no statement can be read as the root, there is no root. -/
theorem findRoot?_eq_none {texts : List (List Char)}
    (unread : ∀ text ∈ texts, RootStatement.read? text = none) : findRoot? texts = none := by
  induction texts with
  | nil => rfl
  | cons text rest ih =>
    obtain ⟨first, others⟩ := List.forall_mem_cons.mp unread
    rw [findRoot?, first, ih others]
    rfl

/-- A root that has been found stays, whatever statements follow. -/
theorem findRoot?_append_of_some {first rest : List (List Char)} {reports : List Diagnostic}
    {root : RootStatement} (found : findRoot? first = some (reports, root, rest))
    (second : List (List Char)) :
    findRoot? (first ++ second) = some (reports, root, rest ++ second) := by
  induction first generalizing reports with
  | nil => cases found
  | cons text others ih =>
    rw [findRoot?] at found
    rw [List.cons_append, findRoot?]
    split at found
    · cases found
      rfl
    · obtain ⟨⟨later, here⟩, inner, same⟩ := Option.map_eq_some_iff.mp found
      cases same
      rw [ih inner]
      rfl

/-- Without a root, all statements before it are reported and the search goes on behind them. -/
theorem findRoot?_append_of_none {first : List (List Char)} (none : findRoot? first = none)
    (second : List (List Char)) :
    findRoot? (first ++ second) = (findRoot? second).map fun (reports, found) =>
      (first.map (fun text => .expectedGraph (String.ofList text)) ++ reports, found) := by
  induction first with
  | nil => simp
  | cons text others ih =>
    rw [findRoot?] at none
    rw [List.cons_append, findRoot?]
    split at none
    · cases none
    · rw [ih (Option.map_eq_none_iff.mp none), Option.map_map]
      rfl

/-- Reports graphs that are still open at the end. -/
def finish (assembly : Assembly) : Document where
  scene := assembly.scene
  metadata := assembly.metadata
  diagnostics :=
    if assembly.openGraphs.isEmpty then assembly.diagnostics
    else assembly.diagnostics ++ [.openGraphs assembly.openGraphs.length]

def read (palettes : Palettes) (text : String) : Except ReadError Document :=
  match findRoot? (statementTexts text.toList) with
  | none => .error .noGraph
  | some (diagnostics, root, rest) =>
    .ok (finish ((Assembly.start root diagnostics).run palettes rest))

end Document
end XdotViewer
