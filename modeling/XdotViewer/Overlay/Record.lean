import XdotViewer.Json
import XdotViewer.Overlay

/-! # Overlays as data -/

namespace XdotViewer

def EntityRef.toJson : EntityRef → Json
  | graph id => .obj [("kind", .str "graph"), ("id", .int id.index)]
  | node id => .obj [("kind", .str "node"), ("id", .int id.index)]
  | edge id => .obj [("kind", .str "edge"), ("id", .int id.index)]

def Link.toJson (link : Link) : Json :=
  .obj [("href", .str link.href), ("target", .str link.target),
    ("title", (link.title.map Json.str).getD .null),
    ("events", .obj (link.events.entries.map fun event => (event.1, .str event.2)))]

def Region.toJson (region : Region) : Json :=
  .obj [("type", .str "region"), ("entity", region.entity.toJson), ("name", .str region.name),
    ("left", .int region.left.toInt), ("top", .int region.top.toInt),
    ("width", .int region.width.toInt), ("height", .int region.height.toInt)]

def TextElement.toJson (text : TextElement) : Json :=
  .obj [("type", .str "text"), ("entity", text.entity.toJson), ("text", .str text.text),
    ("left", .int text.left.toInt), ("top", .int text.top.toInt),
    ("width", .int text.width.toInt), ("fontSize", .int text.fontSize.toInt),
    ("fontFamily", .str text.fontFamily), ("color", .str text.color),
    ("opacity", .float text.opacity), ("align", .str text.align.key),
    ("link", (text.link.map Link.toJson).getD .null)]

def OverlayElement.toJson : OverlayElement → Json
  | region r => r.toJson
  | text t => t.toJson

def Overlay.toJson (overlay : Overlay) : Json :=
  .obj [("width", .int overlay.width), ("height", .int overlay.height),
    ("elements", .arr (overlay.elements.map OverlayElement.toJson))]

end XdotViewer
