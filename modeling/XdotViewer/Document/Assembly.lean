import XdotViewer.Document.Metadata
import XdotViewer.Document.Statement
import XdotViewer.Scene.Lookup

/-! # Assembling a document

Statements build up the scene one after the other. The innermost open graph contains what a
statement creates; once the root graph is closed, statements have no effect.
-/

namespace XdotViewer

/-- A document under construction. -/
structure Assembly where
  scene : Scene
  /-- The open graphs, the innermost first. -/
  openGraphs : List GraphId
  metadata : Metadata
  diagnostics : List Diagnostic

/-- Whether an attribute holds draw instructions: `_draw_`, `_ldraw_`, `_hdraw_` and the like. -/
def isDrawAttr (name : String) : Bool :=
  "draw_".utf8ByteSize < name.utf8ByteSize && name.startsWith "_" && name.endsWith "draw_"

namespace Assembly

def start (root : RootStatement) (diagnostics : List Diagnostic) : Assembly where
  scene := (Scene.new root.name root.strict root.kind).insertAttr (.own (.graph Scene.root))
    "xdotversion" Version.assumed
  openGraphs := [Scene.root]
  metadata := {}
  diagnostics := diagnostics

def report (assembly : Assembly) (diagnostics : List Diagnostic) : Assembly :=
  { assembly with diagnostics := assembly.diagnostics ++ diagnostics }

/-- Lets an attribute of the root graph change the metadata. -/
def updateMetadata (assembly : Assembly) (palettes : Palettes) (name value : String) : Assembly :=
  let scheme := assembly.scene.attr? (.graph Scene.root) "colorscheme"
  let (metadata, diagnostics) := assembly.metadata.update palettes scheme name value
  { assembly with metadata }.report diagnostics

/-- Stores an attribute. Draw instructions go to the entity that the slot belongs to. -/
def setAttr (palettes : Palettes) (slot : AttrSlot) (assembly : Assembly)
    (attr : String × String) : Assembly :=
  let (name, value) := attr
  if isDrawAttr name then
    { assembly with scene := assembly.scene.insertDrawAttr slot.owner name value }
  else
    let assembly :=
      if slot = .own (.graph Scene.root) then assembly.updateMetadata palettes name value
      else assembly
    { assembly with scene := assembly.scene.insertAttr slot name value }

/-- The name of a slot in messages. -/
def describe (scene : Scene) (slot : AttrSlot) : String :=
  let name := quoted (scene.nameOf slot.owner)
  match slot with
  | .own (.graph _) => "graph " ++ name
  | .own _ => name
  | .nodeDefaults _ => "node defaults of " ++ name
  | .edgeDefaults _ => "edge defaults of " ++ name

/-- Stores the pairs of an attribute list up to the first that cannot be read. -/
def applyList (assembly : Assembly) (palettes : Palettes) (slot : AttrSlot) (list : List Char) :
    Assembly :=
  let (pairs, unread) := Statement.pairs list
  let assembly := pairs.foldl (setAttr palettes slot) assembly
  if unread = [] then assembly
  else
    assembly.report
      [.unreadableAttributes (describe assembly.scene slot) (String.ofList unread)]

def applyList? (assembly : Assembly) (palettes : Palettes) (slot : AttrSlot) :
    Option (List Char) → Assembly
  | some list => assembly.applyList palettes slot list
  | none => assembly

/-- The slot that an attribute statement is about; a node is created if it is not there yet. -/
def subjectSlot (scene : Scene) (container : GraphId) : Subject → Scene × AttrSlot
  | .graph => (scene, .own (.graph container))
  | .nodeDefaults => (scene, .nodeDefaults container)
  | .edgeDefaults => (scene, .edgeDefaults container)
  | .node name =>
    let (scene, id) := scene.ensureNode container name
    (scene, .own (.node id))

/-- The effect of a statement inside an open graph. -/
def perform (palettes : Palettes) (assembly : Assembly) (container : GraphId) :
    Statement → Assembly
  | .close => { assembly with openGraphs := assembly.openGraphs.tail }
  | .subgraph name =>
    let (scene, id) := assembly.scene.addGraph container name
    { assembly with scene, openGraphs := id :: assembly.openGraphs }
  | .edge tail head list =>
    let (scene, _) := assembly.scene.ensureNode container tail
    let (scene, _) := scene.ensureNode container head
    let (scene, id) := scene.addEdge container tail head
    { assembly with scene }.applyList? palettes (.own (.edge id)) list
  | .attributes subject list =>
    let (scene, slot) := subjectSlot assembly.scene container subject
    { assembly with scene }.applyList? palettes slot list
  | .assign name value => setAttr palettes (.own (.graph container)) assembly (name, value)

/-- The effect of a statement as it is written. -/
def step (palettes : Palettes) (assembly : Assembly) (text : List Char) : Assembly :=
  match assembly.openGraphs with
  | [] => assembly
  | container :: _ =>
    match Statement.read? text with
    | some statement => assembly.perform palettes container statement
    | none => assembly.report [.unreadableLine (String.ofList text)]

def run (palettes : Palettes) (assembly : Assembly) (texts : List (List Char)) : Assembly :=
  texts.foldl (step palettes) assembly

/-- A run takes its statements one after the other. -/
theorem run_cons (palettes : Palettes) (assembly : Assembly) (text : List Char)
    (rest : List (List Char)) :
    assembly.run palettes (text :: rest) = (step palettes assembly text).run palettes rest := rfl

/-- A run over statements in two parts is a run over one after the other. -/
theorem run_append (palettes : Palettes) (assembly : Assembly) (first second : List (List Char)) :
    assembly.run palettes (first ++ second) =
      (assembly.run palettes first).run palettes second :=
  List.foldl_append

/-- A closed document takes no more statements. -/
theorem run_of_closed {palettes : Palettes} {assembly : Assembly} {texts : List (List Char)}
    (closed : assembly.openGraphs = []) : assembly.run palettes texts = assembly := by
  induction texts with
  | nil => rfl
  | cons text rest ih => simpa [run, step, closed] using ih

end Assembly
end XdotViewer
