import XdotViewer.Decimal.Binary64
import XdotViewer.OrderedMap
import XdotViewer.Scene

/-! # Overlays

Texts and sensitive regions lie over the canvas. Their places are whole pixels from the top left
corner of the canvas, held in signed words of 64 bits.
-/

namespace XdotViewer

/-- How a text stands to its anchor. -/
inductive TextAlign where
  | left
  | center
  | right
deriving DecidableEq, Repr

namespace TextAlign

/-- Negative numbers mean left, positive ones right. -/
def ofNumber (value : Float) : TextAlign :=
  if value < 0.0 then left else if 0.0 < value then right else center

def sign : TextAlign → Int
  | left => -1
  | center => 0
  | right => 1

def key : TextAlign → String
  | left => "left"
  | center => "center"
  | right => "right"

end TextAlign

structure Link where
  href : String
  target : String
  title : Option String
  /-- Code for events, by the name of the event. -/
  events : OrderedMap String String

/-- The place where an entity has been drawn. -/
structure Region where
  entity : EntityRef
  name : String
  left : Int64
  top : Int64
  width : Int64
  height : Int64
deriving Repr

/-- The double nearest to a word. -/
def floatOfInt64 (value : Int64) : Float :=
  floatOfSigned (decide (value.toInt < 0)) value.toInt.natAbs

/-- The word nearest to a double on the side of zero. -/
def int64OfFloat (value : Float) : Int64 :=
  .ofInt (toInt64Range value)

/-- Whether a point lies in a region or on its edge. -/
def Region.contains (region : Region) (x y : Float) : Bool :=
  floatOfInt64 region.left ≤ x && x ≤ floatOfInt64 (region.left + region.width) &&
    floatOfInt64 region.top ≤ y && y ≤ floatOfInt64 (region.top + region.height)

structure TextElement where
  entity : EntityRef
  text : String
  left : Int64
  top : Int64
  width : Int64
  fontSize : Int64
  fontFamily : String
  /-- The color without its opacity. -/
  color : String
  opacity : Float
  align : TextAlign
  link : Option Link

inductive OverlayElement where
  | region (region : Region)
  | text (text : TextElement)

structure Overlay where
  width : Nat
  height : Nat
  /-- From the bottom to the top. -/
  elements : List OverlayElement

namespace Overlay

def empty : Overlay :=
  ⟨0, 0, []⟩

instance : EmptyCollection Overlay := ⟨empty⟩

def push (overlay : Overlay) (element : OverlayElement) : Overlay :=
  { overlay with elements := overlay.elements ++ [element] }

def regions (overlay : Overlay) : List Region :=
  overlay.elements.filterMap fun
    | .region region => some region
    | .text _ => none

def texts (overlay : Overlay) : List TextElement :=
  overlay.elements.filterMap fun
    | .region _ => none
    | .text text => some text

/-- The entity of the topmost region at a point. -/
def entityAt? (overlay : Overlay) (x y : Float) : Option EntityRef :=
  (overlay.regions.reverse.find? fun region => region.contains x y).map Region.entity

/-- A point outside of every region belongs to no entity. -/
theorem entityAt?_eq_none_iff {overlay : Overlay} {x y : Float} :
    overlay.entityAt? x y = none ↔ ∀ region ∈ overlay.regions, region.contains x y = false := by
  simp [entityAt?]

end Overlay
end XdotViewer
