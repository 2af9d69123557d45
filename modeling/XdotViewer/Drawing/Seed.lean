import XdotViewer.Document.Metadata
import XdotViewer.Drawing.Setting
import XdotViewer.Geometry.Rect
import XdotViewer.Scene.Lookup

/-! # Where boxes begin

The box of an entity grows from a seed: the rectangle of a graph, or the position of a node or an
edge. An entity that is drawn has to have one.
-/

namespace XdotViewer

inductive SeedError where
  | missing (entity attr : String)
  | unreadable (entity attr value : String)
deriving DecidableEq, Repr

def SeedError.message : SeedError → String
  | missing entity attr => entity ++ " has no `" ++ attr ++ "` attribute to seed its bounding box"
  | unreadable entity attr value =>
    entity ++ " has an unreadable `" ++ attr ++ "` attribute: " ++ quoted value

namespace Seed

/-- The attribute that holds the seed of an entity. -/
def attrName : EntityRef → String
  | .graph _ => "bb"
  | _ => "pos"

/-- The four edges of a rectangle: left, bottom, right and top. -/
def edges? (value : List Char) : Option (Rect Float) :=
  match Metadata.coordinates? value with
  | some [left, bottom, right, top] => some ⟨left, top, right, bottom⟩
  | _ => none

def isNumberChar (c : Char) : Bool :=
  Literal.isDigit c || c == '.'

/-- The longest front part that is written like a coordinate, if it is not empty. -/
def takeCoordinate? (text : List Char) : Option (List Char × List Char) :=
  let (sign, body) := match text with
    | '-' :: rest => (['-'], rest)
    | _ => ([], text)
  match body.takeWhile isNumberChar with
  | [] => none
  | digits => some (sign ++ digits, body.dropWhile isNumberChar)

/-- The first place where two coordinates stand with a comma between them. -/
def findPosition? : List Char → Option (List Char × List Char)
  | [] => none
  | c :: rest =>
    match takeCoordinate? (c :: rest) with
    | some (x, ',' :: more) =>
      match takeCoordinate? more with
      | some (y, _) => some (x, y)
      | none => findPosition? rest
    | _ => findPosition? rest

def position? (value : List Char) : Option (Point Float) :=
  match findPosition? value with
  | some (x, y) =>
    match readFloat? x, readFloat? y with
    | some x, some y => some ⟨x, y⟩
    | _, _ => none
  | none => none

end Seed

namespace Setting

variable {ι : Type}

/-- A seed on the canvas, read from the value of its attribute. -/
def readSeed? (setting : Setting ι) (entity : EntityRef) (value : List Char) :
    Option (Rect Float) :=
  match entity with
  | .graph _ =>
    (Seed.edges? value).map fun r =>
      Rect.normalized ⟨r.left, setting.flip r.bottom, r.right, setting.flip r.top⟩
  | _ =>
    (Seed.position? value).map fun p =>
      .atPoint ⟨roundHalfAway p.x, roundHalfAway (setting.flip p.y)⟩

/-- The seed of an entity's box. -/
def seed (setting : Setting ι) (entity : EntityRef) : Except SeedError (Rect Float) :=
  let name := setting.scene.nameOf entity
  let attr := Seed.attrName entity
  match setting.scene.attr? entity attr with
  | none => .error (.missing name attr)
  | some value =>
    match setting.readSeed? entity value.toList with
    | some box => .ok box
    | none => .error (.unreadable name attr value)

end Setting
end XdotViewer
