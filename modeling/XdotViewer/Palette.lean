import XdotViewer.Color.Hex
import XdotViewer.Color.Hsv
import XdotViewer.Diagnostic
import XdotViewer.OrderedMap
import XdotViewer.Palette.X11
import XdotViewer.Text.LowerCase

/-! # Palettes

Color names belong to schemes. Names and schemes are kept and sought in lower case; a name that
its scheme lacks is sought in the fallback scheme.
-/

namespace XdotViewer

/-- The channels of each name, by scheme. -/
structure Palettes where
  schemes : OrderedMap String (OrderedMap String String)

namespace Palettes

def fallbackScheme : String := "fallback"

/-- The scheme of an entity that names none. -/
def defaultScheme : String := "x11"

/-- The channels of an entry: lower case, without the number sign. -/
def entryText (hex : String) : String :=
  match hex.toList with
  | '#' :: rest => lowerCase (String.ofList rest)
  | _ => lowerCase hex

/-- Adds names to a scheme; a name that is there gets the new color. -/
def register (palettes : Palettes) (scheme : String) (entries : List (String × String)) :
    Palettes :=
  let scheme := lowerCase scheme
  let table := (palettes.schemes.get? scheme).getD ∅
  ⟨palettes.schemes.insert scheme
    (table.insertAll (entries.map fun (name, hex) => (lowerCase name, entryText hex)))⟩

/-- The fallback scheme alone. -/
def minimal : Palettes :=
  register ⟨∅⟩ fallbackScheme [("black", "000000"), ("lightgrey", "d3d3d3"), ("white", "ffffff")]

/-- The fallback scheme and `x11`. -/
def standard : Palettes :=
  minimal.register defaultScheme Palette.x11

instance : Inhabited Palettes := ⟨standard⟩

def hasScheme (palettes : Palettes) (scheme : String) : Bool :=
  palettes.schemes.contains (lowerCase scheme)

/-- The channels of a name in a scheme, both in lower case. -/
def entry? (palettes : Palettes) (scheme name : String) : Option String :=
  (palettes.schemes.get? scheme).bind fun table => table.get? name

/-- The color of a name in a scheme, else in the fallback scheme. -/
def lookup (palettes : Palettes) (scheme name : String) : Option Color :=
  let name := lowerCase name
  let hex := (palettes.entry? (lowerCase scheme) name).orElse fun _ =>
    palettes.entry? fallbackScheme name
  hex.bind fun hex => Color.parseHex? ('#' :: hex.toList)

/-- Divides a text at its last slash. -/
def splitLastSlash (text : List Char) : Option (List Char × List Char) :=
  match text.reverse.span (· != '/') with
  | (_, []) => none
  | (last, _ :: before) => some (before.reverse, last.reverse)

/-- The scheme and the name that a literal means: `/scheme/name`, `/name` in the default scheme,
`//name` or `name` in the scheme at hand. -/
def qualify (literal : String) (scheme : Option String) : String × String :=
  let current := match scheme with
    | some scheme => if scheme.isEmpty then defaultScheme else scheme
    | none => defaultScheme
  match literal.toList with
  | '/' :: rest =>
    match splitLastSlash rest with
    | some (qualifier, name) =>
      (if qualifier.isEmpty then current else String.ofList qualifier, String.ofList name)
    | none => (defaultScheme, String.ofList rest)
  | _ => (current, literal)

/-- A color that is written out: hexadecimal, or three numbers. -/
def written? (literal : List Char) : Option Color :=
  let hex := if Color.isHexLiteral literal then Color.parseHex? literal else none
  hex.orElse fun _ => (Hsv.triple? literal).map fun (h, s, v) => Color.ofHsv h s v

/-- The color of a literal. An unknown color is black and reported, after its scheme if that is
unknown too. -/
def resolve (palettes : Palettes) (literal : String) (scheme : Option String) :
    Color × List Diagnostic :=
  match written? literal.toList with
  | some color => (color, [])
  | none =>
    let (scheme, name) := qualify literal scheme
    match palettes.lookup scheme name with
    | some color => (color, [])
    | none =>
      let unknown := Diagnostic.unknownColor literal scheme
      (.black, if palettes.hasScheme scheme then [unknown]
        else [.unknownScheme scheme, unknown])

end Palettes
end XdotViewer
