import XdotViewer.Document.Version
import XdotViewer.Palette

/-! # Document metadata

Some attributes of the root graph describe the document as a whole. A value that cannot be read is
reported and changes nothing.
-/

namespace XdotViewer

structure Metadata where
  /-- Extent of the drawing in points. -/
  width : Float := 0.0
  height : Float := 0.0
  /-- Pixels per inch. -/
  dpi : Float := 96.0
  background : Color := .white
  /-- Greatest extent that was asked for, in points; drawing does not heed it. -/
  maxWidth : Option Float := none
  maxHeight : Option Float := none
  /-- Whether the drawing may be enlarged to the greatest extent. -/
  enlarge : Bool := false
  version : String := Version.assumed

namespace Metadata

/-- The numbers between commas, all of them readable. -/
def coordinates? (value : List Char) : Option (List Float) :=
  (fields ',' value).mapM fun field => readFloat? (trim field)

/-- Width and height are the third and fourth coordinate. -/
def extent? (value : List Char) : Option (Float × Float) :=
  match coordinates? value with
  | some (_ :: _ :: width :: height :: _) => some (width, height)
  | _ => none

def resolution? (value : List Char) : Option Float :=
  (readFloat? (trim value)).filter fun dpi => 0.0 < dpi

/-- Whether a text is written like a length: digits, or digits after a point. -/
def isLength (text : List Char) : Bool :=
  match Literal.spanDigits text with
  | (whole, []) => !whole.isEmpty
  | (_, '.' :: fraction) => !fraction.isEmpty && fraction.all Literal.isDigit
  | _ => false

/-- A length in inches. -/
def inches? (text : List Char) : Option Float :=
  if isLength text then readFloat? text else none

/-- Drops one exclamation mark at the end, and says whether it was there. -/
def takeMark (text : List Char) : List Char × Bool :=
  if text.getLast? = some '!' then (text.dropLast, true) else (text, false)

def pointsPerInch : Float := 72.0

/-- Two lengths with a comma between them, and a mark that asks for enlargement. -/
def size? (value : List Char) : Option (Float × Float × Bool) :=
  match fields ',' (trim value) with
  | [width, height] =>
    let (height, enlarge) := takeMark (trimStart height)
    match inches? width, inches? height with
    | some width, some height => some (pointsPerInch * width, pointsPerInch * height, enlarge)
    | _, _ => none
  | _ => none

/-- The metadata after the root graph has been given an attribute; `scheme` is the color scheme of
the root graph at that moment. -/
def update (metadata : Metadata) (palettes : Palettes) (scheme : Option String)
    (name value : String) : Metadata × List Diagnostic :=
  let invalid := (metadata, [Diagnostic.invalidAttribute name value])
  match name with
  | "bb" =>
    match extent? value.toList with
    | some (width, height) => ({ metadata with width, height }, [])
    | none => invalid
  | "bgcolor" =>
    let (background, diagnostics) := palettes.resolve value scheme
    ({ metadata with background }, diagnostics)
  | "dpi" =>
    match resolution? value.toList with
    | some dpi => ({ metadata with dpi }, [])
    | none => invalid
  | "size" =>
    match size? value.toList with
    | some (width, height, enlarge) =>
      ({ metadata with maxWidth := some width, maxHeight := some height, enlarge }, [])
    | none => invalid
  | "xdotversion" =>
    ({ metadata with version := value },
      if Version.compareTexts value Version.newest = .gt then
        [Diagnostic.newerVersion value Version.newest]
      else [])
  | _ => (metadata, [])

end Metadata
end XdotViewer
