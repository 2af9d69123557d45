import XdotViewer.Document
import XdotViewer.Proofs.Document.Passage

/-! # Blueprints

A blueprint is a document by its structure alone. It can be printed, one statement a line and every
name and value in quotes, and it can be built as a scene without any text in between.
-/

namespace XdotViewer

abbrev AttrList := List (String × String)

namespace Blueprint

/-- What an attribute statement gives its attributes to: a graph, or all nodes or edges inside. -/
inductive Scope where
  | graph
  | nodes
  | edges
deriving DecidableEq, Repr

namespace Scope

def keyword : Scope → List Char
  | graph => "graph".toList
  | nodes => "node".toList
  | edges => "edge".toList

def slot (container : GraphId) : Scope → AttrSlot
  | graph => .own (.graph container)
  | nodes => .nodeDefaults container
  | edges => .edgeDefaults container

end Scope

inductive Item where
  | subgraph (name : String) (items : List Item)
  | node (name : String) (attrs : AttrList)
  | edge (tail head : String) (attrs : AttrList)
  | defaults (scope : Scope) (attrs : AttrList)
  | assign (name value : String)

end Blueprint

structure Blueprint where
  strict : Bool
  kind : GraphKind
  name : String
  items : List Blueprint.Item

/-- Stores an attribute; draw instructions go to the entity that the slot belongs to. -/
def Scene.store (slot : AttrSlot) (scene : Scene) (attr : String × String) : Scene :=
  if isDrawAttr attr.1 then scene.insertDrawAttr slot.owner attr.1 attr.2
  else scene.insertAttr slot attr.1 attr.2

def Scene.storeAll (scene : Scene) (slot : AttrSlot) (attrs : AttrList) : Scene :=
  attrs.foldl (Scene.store slot) scene

namespace Blueprint

section Printing

/-- A line of a printed document. -/
inductive PrintedLine where
  /-- The beginning of a graph, without its brace. -/
  | opening (heading : List Char)
  | closing
  /-- A statement, without its semicolon. -/
  | ended (statement : List Char)

namespace PrintedLine

def text : PrintedLine → List Char
  | opening heading => heading ++ [' ', '{']
  | closing => ['}']
  | ended statement => statement ++ [';']

/-- The statement on a line. -/
def statement : PrintedLine → List Char
  | opening heading => heading ++ [' ', '{']
  | closing => ['}']
  | ended statement => statement

end PrintedLine

def quoteName (name : String) : List Char :=
  Ident.quotation name.toList

def printPair (attr : String × String) : List Char :=
  quoteName attr.1 ++ '=' :: quoteName attr.2

/-- The pairs of an attribute list, with a comma and a blank between them. -/
def printPairs : AttrList → List Char
  | [] => []
  | [attr] => printPair attr
  | attr :: rest => printPair attr ++ ',' :: ' ' :: printPairs rest

def printList (attrs : AttrList) : List Char :=
  ' ' :: '[' :: printPairs attrs ++ [']']

mutual

def Item.print (kind : GraphKind) : Item → List PrintedLine
  | .subgraph name items =>
    .opening ("subgraph".toList ++ ' ' :: quoteName name) :: Item.printAll kind items ++ [.closing]
  | .node name attrs => [.ended (quoteName name ++ printList attrs)]
  | .edge tail head attrs =>
    [.ended (quoteName tail ++ ' ' :: kind.edgeOp.toList ++ ' ' :: quoteName head ++
      printList attrs)]
  | .defaults scope attrs => [.ended (scope.keyword ++ printList attrs)]
  | .assign name value => [.ended (printPair (name, value))]

def Item.printAll (kind : GraphKind) : List Item → List PrintedLine
  | [] => []
  | item :: rest => item.print kind ++ Item.printAll kind rest

end

def kindKeyword : GraphKind → List Char
  | .directed => "digraph".toList
  | .undirected => "graph".toList

def heading (blueprint : Blueprint) : List Char :=
  (if blueprint.strict then "strict".toList ++ [' '] else []) ++ kindKeyword blueprint.kind ++
    ' ' :: quoteName blueprint.name

def lines (blueprint : Blueprint) : List PrintedLine :=
  .opening blueprint.heading :: Item.printAll blueprint.kind blueprint.items ++ [.closing]

def print (blueprint : Blueprint) : String :=
  String.ofList (unlines (blueprint.lines.map PrintedLine.text))

end Printing

section Building

mutual

/-- What an item adds to a scene inside a graph. -/
def Item.build (container : GraphId) (scene : Scene) : Item → Scene
  | .subgraph name items =>
    let (scene, id) := scene.addGraph container name
    Item.buildAll id scene items
  | .node name attrs =>
    let (scene, id) := scene.ensureNode container name
    scene.storeAll (.own (.node id)) attrs
  | .edge tail head attrs =>
    let (scene, _) := scene.ensureNode container tail
    let (scene, _) := scene.ensureNode container head
    let (scene, id) := scene.addEdge container tail head
    scene.storeAll (.own (.edge id)) attrs
  | .defaults scope attrs => scene.storeAll (scope.slot container) attrs
  | .assign name value => scene.store (.own (.graph container)) (name, value)

def Item.buildAll (container : GraphId) (scene : Scene) : List Item → Scene
  | [] => scene
  | item :: rest => Item.buildAll container (item.build container scene) rest

end

/-- A root graph that assumes a version, with all items in it. -/
def scene (blueprint : Blueprint) : Scene :=
  let root := (Scene.new blueprint.name blueprint.strict blueprint.kind).insertAttr
    (.own (.graph Scene.root)) "xdotversion" "1.0"
  Item.buildAll Scene.root root blueprint.items

end Building

section Strings

def attrStrings (attrs : AttrList) : List String :=
  attrs.flatMap fun attr => [attr.1, attr.2]

mutual

/-- All names and values of an item. -/
def Item.strings : Item → List String
  | .subgraph name items => name :: Item.allStrings items
  | .node name attrs => name :: attrStrings attrs
  | .edge tail head attrs => tail :: head :: attrStrings attrs
  | .defaults _ attrs => attrStrings attrs
  | .assign name value => [name, value]

def Item.allStrings : List Item → List String
  | [] => []
  | item :: rest => item.strings ++ Item.allStrings rest

end

def strings (blueprint : Blueprint) : List String :=
  blueprint.name :: Item.allStrings blueprint.items

/-- Whether every name and value can stand in quotes. -/
def Quotable (blueprint : Blueprint) : Prop :=
  ∀ text ∈ blueprint.strings, Ident.Quotable text.toList

end Strings

end Blueprint
end XdotViewer
