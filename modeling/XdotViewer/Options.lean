import XdotViewer.Json.Settings

/-! # Drawing options -/

namespace XdotViewer

structure Options where
  /-- Zoom on top of the resolution of the document. -/
  scale : Float := 1.0
  /-- Pixels of background around the drawing. -/
  padding : Float := 8.0
  /-- What stands in front of every image source. -/
  imageBase : String := ""
  dashLength : Float := 6.0
  dotSpacing : Float := 4.0
deriving Inhabited

namespace Options

def names : List String :=
  ["scale", "padding", "imageBasePath", "dashLength", "dotSpacing"]

def ofJson? (value : Json) : Option Options := do
  let given ← value.settings? names
  let defaults : Options := {}
  return {
    scale := ← Json.setting given "scale" defaults.scale Json.finite?
    padding := ← Json.setting given "padding" defaults.padding Json.finite?
    imageBase := ← Json.setting given "imageBasePath" defaults.imageBase Json.text?
    dashLength := ← Json.setting given "dashLength" defaults.dashLength Json.finite?
    dotSpacing := ← Json.setting given "dotSpacing" defaults.dotSpacing Json.finite? }

def toJson (options : Options) : Json :=
  .obj [("scale", .float options.scale), ("padding", .float options.padding),
    ("imageBasePath", .str options.imageBase), ("dashLength", .float options.dashLength),
    ("dotSpacing", .float options.dotSpacing)]

end Options
end XdotViewer
