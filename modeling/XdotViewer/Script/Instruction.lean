import XdotViewer.Geometry.Point

/-! # Draw instructions

An instruction is a shape to draw, an image or a text to place, or a change of the pen. Coordinates
are those of the drawing: the vertical one grows upwards.
-/

namespace XdotViewer

/-- What a script may ask of the lines that follow. -/
inductive LineStyle where
  /-- Asks for nothing. -/
  | plain
  | dashed
  | dotted
  | width (width : Float)

/-- The width of a bold line. -/
def LineStyle.boldWidth : Float := 2.0

inductive Instruction where
  | ellipse (filled : Bool) (center : Point Float) (rx ry : Float)
  | polygon (filled : Bool) (points : List (Point Float))
  | polyline (points : List (Point Float))
  | spline (filled : Bool) (points : List (Point Float))
  | image (corner : Point Float) (width height : Float) (source : String)
  | text (anchor : Point Float) (align width : Float) (text : String)
  | fillColor (literal : String)
  | strokeColor (literal : String)
  | font (size : Float) (family : String)
  | style (style : LineStyle)

/-- The words that begin an instruction. -/
inductive OpCode where
  | ellipse (filled : Bool)
  | polygon (filled : Bool)
  | polyline
  | spline (filled : Bool)
  | image
  | text
  | fillColor
  | strokeColor
  | font
  | style
deriving DecidableEq, Repr

namespace OpCode

/-- The letter of an op-code: a filled shape has a capital, but a filled spline a small letter. -/
def letter : OpCode → Char
  | ellipse true => 'E'
  | ellipse false => 'e'
  | polygon true => 'P'
  | polygon false => 'p'
  | polyline => 'L'
  | spline true => 'b'
  | spline false => 'B'
  | image => 'I'
  | text => 'T'
  | fillColor => 'C'
  | strokeColor => 'c'
  | font => 'F'
  | style => 'S'

def all : List OpCode :=
  [ellipse true, ellipse false, polygon true, polygon false, polyline, spline true, spline false,
   image, text, fillColor, strokeColor, font, style]

def ofWord? (word : List Char) : Option OpCode :=
  all.find? fun op => [op.letter] == word

/-- No op-code is missing from the list. -/
theorem mem_all (op : OpCode) : op ∈ all := by
  cases op <;> first | decide | (rename_i filled; cases filled <;> decide)

/-- Each op-code has a letter of its own. -/
theorem ofWord?_letter (op : OpCode) : ofWord? [op.letter] = some op := by
  cases op <;> first | decide | (rename_i filled; cases filled <;> decide)

end OpCode

/-- Why a script ends before its text does. -/
inductive Fault where
  | missingOperand (op : OpCode)
  | unknownStyle (style : String)
  | unknownOp (word : String)
deriving DecidableEq, Repr

end XdotViewer
