import XdotViewer.Document
import XdotViewer.Geometry.Point
import XdotViewer.Images
import XdotViewer.Options

/-! # What a pass looks at

The setting of a pass is fixed while it runs: the document, the palettes, the options and the
images as far as they are loaded.
-/

namespace XdotViewer

structure Setting (ι : Type) where
  document : Document
  palettes : Palettes
  options : Options
  images : String → ImageState ι

namespace Setting

variable {ι : Type}

def scene (setting : Setting ι) : Scene :=
  setting.document.scene

/-- Pixels per point. -/
def zoom (setting : Setting ι) : Float :=
  setting.options.scale * setting.document.metadata.dpi / 72.0

/-- The height of a point from the top, given its height from the bottom. -/
def flip (setting : Setting ι) (y : Float) : Float :=
  setting.document.metadata.height - y

def flipPoint (setting : Setting ι) (p : Point Float) : Point Float :=
  ⟨p.x, setting.flip p.y⟩

/-- The pixels that an extent takes, with padding on both sides. -/
def pixels (setting : Setting ι) (extent : Float) : Nat :=
  toUInt32Range
    (Scalar.max (roundHalfAway (setting.zoom * extent + 2.0 * setting.options.padding)) 0.0)

/-- The size of the canvas. -/
def canvasSize (setting : Setting ι) : Nat × Nat :=
  (setting.pixels setting.document.metadata.width, setting.pixels setting.document.metadata.height)

end Setting
end XdotViewer
