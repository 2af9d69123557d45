import XdotViewer.Document.Ident
import XdotViewer.Scene

/-! # Statements

The forms that a statement can take. Where the forms overlap, the first one that reads the whole
statement counts.
-/

namespace XdotViewer

/-- What an attribute statement is about. -/
inductive Subject where
  | graph
  | nodeDefaults
  | edgeDefaults
  | node (name : String)
deriving DecidableEq, Repr

inductive Statement where
  | close
  | subgraph (name : String)
  /-- An edge, with the text of its attribute list if it has one. -/
  | edge (tail head : String) (list : Option (List Char))
  | attributes (subject : Subject) (list : Option (List Char))
  | assign (name value : String)
deriving DecidableEq, Repr

/-- The statement that opens a document. -/
structure RootStatement where
  strict : Bool
  kind : GraphKind
  name : String
deriving DecidableEq, Repr

namespace Statement

open Reading

/-- An opening brace at the very end. -/
def opening : Reading Unit := do
  blanks
  character '{'
  atEnd

/-- The side of a node where an edge is attached: an identifier after a colon. -/
def attachment : Reading (List Char) := do
  character ':'
  Ident.reading

/-- The name of a node with up to two attachments, which are dropped. -/
def nodeName : Reading (List Char) := do
  let name ← Ident.reading
  let _ ← optional do
    let _ ← attachment
    optional attachment
  return name

/-- An attribute list that ends the statement; it holds no line break. -/
def listAtEnd : Reading (List Char)
  | '[' :: rest =>
    if rest.getLast? = some ']' ∧ '\n' ∉ rest then [(rest.dropLast, [])] else []
  | _ => []

/-- The end of a statement with or without an attribute list. -/
def ending : Reading (Option (List Char)) := do
  let list ← optional do
    blanks
    listAtEnd
  atEnd
  return list

def edgeOperator : Reading Unit :=
  orElse (exactly ['-', '>']) (exactly ['-', '-'])

def subgraphStatement : Reading Statement := do
  let _ ← optional do
    keyword "subgraph".toList
    Ident.someMargin
  let name ← optional Ident.reading
  opening
  return .subgraph ((name.map Ident.text).getD "")

def edgeStatement : Reading Statement := do
  let tail ← nodeName
  blanks
  edgeOperator
  Ident.margin
  let head ← nodeName
  let list ← ending
  return .edge (Ident.text tail) (Ident.text head) list

/-- A bare keyword, in any letter case, is about a graph; everything else names a node. -/
def subjectOf (written : List Char) : Subject :=
  match String.ofList (written.map Char.toLower) with
  | "graph" => .graph
  | "node" => .nodeDefaults
  | "edge" => .edgeDefaults
  | _ => .node (Ident.text written)

def attributeStatement : Reading Statement := do
  let name ← nodeName
  let list ← ending
  return .attributes (subjectOf name) list

def assignment : Reading Statement := do
  let name ← Ident.reading
  blanks
  character '='
  Ident.margin
  let value ← Ident.reading
  atEnd
  return .assign (Ident.text name) (Ident.text value)

def read? (text : List Char) : Option Statement :=
  if text = ['}'] then some .close
  else
    whole? subgraphStatement text <|> whole? edgeStatement text <|>
      whole? attributeStatement text <|> whole? assignment text

/-- A name and its value. -/
def pair : Reading (String × String) := do
  Ident.margin
  let name ← Ident.reading
  blanks
  character '='
  Ident.margin
  let value ← Ident.reading
  return (Ident.text name, Ident.text value)

def isSeparator (c : Char) : Bool :=
  c == ',' || c == ';' || isBlank c

/-- Drops separators; at least one stands before anything else. -/
def separators : Reading Unit
  | [] => [((), [])]
  | c :: rest => if isSeparator c then [((), rest.dropWhile isSeparator)] else []

/-- One pair of an attribute list, with the separators after it. -/
def separatedPair : Reading (String × String) := do
  let pair ← pair
  separators
  return pair

theorem bounded_separators : separators.Bounded := by
  intro text way member
  cases text with
  | nil =>
    cases List.mem_singleton.mp member
    exact Nat.le_refl _
  | cons c rest =>
    simp only [separators] at member
    split at member
    · cases List.mem_singleton.mp member
      exact Nat.le_succ_of_le (List.dropWhile_suffix isSeparator).length_le
    · cases member

/-- A pair takes a character at least, so reading pairs comes to an end. -/
theorem consuming_separatedPair : separatedPair.Consuming := by
  refine Consuming.bind ?_ fun _ => bounded_separators.bind fun _ => bounded_pure _
  refine Ident.bounded_margin.bind_consuming fun _ => ?_
  refine Ident.consuming_reading.bind fun _ => ?_
  refine bounded_blanks.bind fun _ => ?_
  refine (bounded_character '=').bind fun _ => ?_
  refine Ident.bounded_margin.bind fun _ => ?_
  exact Ident.consuming_reading.bounded.bind fun _ => bounded_pure _

/-- The pairs of an attribute list, and the rest that cannot be read. -/
def pairsFrom (text : List Char) : List (String × String) × List Char :=
  if text = [] then ([], [])
  else
    match _ : front? separatedPair text with
    | none => ([], text)
    | some (pair, rest) =>
      let (pairs, unread) := pairsFrom rest
      (pair :: pairs, unread)
termination_by text.length
decreasing_by
  rename_i found
  exact consuming_separatedPair text _ (List.mem_of_head? found)

/-- The pairs of an attribute list; blanks around the list do not count. -/
def pairs (list : List Char) : List (String × String) × List Char :=
  pairsFrom (trim list)

end Statement

namespace RootStatement

open Reading

def reading : Reading RootStatement := do
  let strict ← optional do
    keyword "strict".toList
    someBlanks
  let kind ← orElse
    (do keyword "graph".toList; return .undirected)
    (do keyword "digraph".toList; return .directed)
  let name ← optional do
    Ident.someMargin
    Ident.reading
  Statement.opening
  return ⟨strict.isSome, kind, (name.map Ident.text).getD ""⟩

def read? (text : List Char) : Option RootStatement :=
  whole? reading text

end RootStatement
end XdotViewer
