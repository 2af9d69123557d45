import XdotViewer.Scene.Lookup

/-! # Escape sequences in attribute values

A backslash before a letter stands for a name of the entity at hand: `\N` a node, `\E` an edge,
`\G` the nearest graph, `\T` and `\H` the ends of an edge, `\L` the label. Other backslashes stay.
-/

namespace XdotViewer.Scene

/-- Replaces escape sequences from left to right; a replacement is not looked at again. -/
def substitute (meaning : Char → Option String) : List Char → List Char
  | '\\' :: code :: rest =>
    match meaning code with
    | some text => text.toList ++ substitute meaning rest
    | none => '\\' :: substitute meaning (code :: rest)
  | c :: rest => c :: substitute meaning rest
  | [] => []
termination_by text => text.length

/-- The name of the nearest graph of an entity. -/
def graphName (s : Scene) (r : EntityRef) : String :=
  ((s.nearestGraph? r).bind fun id => (s.graph? id).map fun g => g.entity.name).getD ""

/-- The meaning of an escape sequence, the label aside. -/
def nameMeaning (s : Scene) (r : EntityRef) (code : Char) : Option String :=
  match r, code with
  | _, 'G' => some (s.graphName r)
  | .node _, 'N' => some (s.nameOf r)
  | .edge _, 'E' => some (s.nameOf r)
  | .edge id, 'T' => (s.edge? id).map Edge.tail
  | .edge id, 'H' => (s.edge? id).map Edge.head
  | _, _ => none

/-- The label with its escape sequences replaced; it does not refer to itself. -/
def labelText (s : Scene) (r : EntityRef) : String :=
  match s.attr? r "label" with
  | some label => String.ofList (substitute (s.nameMeaning r) label.toList)
  | none => ""

/-- The meaning of an escape sequence. -/
def meaning (s : Scene) (r : EntityRef) (code : Char) : Option String :=
  if code = 'L' then some (s.labelText r) else s.nameMeaning r code

def expand (s : Scene) (r : EntityRef) (value : String) : String :=
  String.ofList (substitute (s.meaning r) value.toList)

/-- The value of an attribute with its escape sequences replaced. -/
def attrExpanded? (s : Scene) (r : EntityRef) (name : String) : Option String :=
  (s.attr? r name).map (s.expand r)

end XdotViewer.Scene
