import XdotViewer.Text.Quoted

/-! # Diagnostics

Recoverable problems of reading and drawing. None of them ends the work: the line, instruction or
lookup concerned is skipped or replaced by a safe default. The wording of each cause is here.
-/

namespace XdotViewer

inductive DiagnosticKind where
  | unparsableLine
  | unparsableAttributes
  | unterminatedGraph
  | unsupportedVersion
  | invalidAttribute
  | unknownColor
  | unknownColorScheme
  | unknownOpCode
  | unknownStyle
  | malformedInstruction
  | imageFailed
deriving DecidableEq, Repr

namespace DiagnosticKind

def all : List DiagnosticKind :=
  [unparsableLine, unparsableAttributes, unterminatedGraph, unsupportedVersion, invalidAttribute,
   unknownColor, unknownColorScheme, unknownOpCode, unknownStyle, malformedInstruction, imageFailed]

/-- The name of a kind in data. -/
def key : DiagnosticKind → String
  | unparsableLine => "unparsableLine"
  | unparsableAttributes => "unparsableAttributes"
  | unterminatedGraph => "unterminatedGraph"
  | unsupportedVersion => "unsupportedVersion"
  | invalidAttribute => "invalidAttribute"
  | unknownColor => "unknownColor"
  | unknownColorScheme => "unknownColorScheme"
  | unknownOpCode => "unknownOpCode"
  | unknownStyle => "unknownStyle"
  | malformedInstruction => "malformedInstruction"
  | imageFailed => "imageFailed"

/-- The name of a kind in a title: the same name with a capital. -/
def title (kind : DiagnosticKind) : String :=
  kind.key.capitalize

def ofKey? (key : String) : Option DiagnosticKind :=
  all.find? fun kind => kind.key == key

/-- No kind is missing from the list. -/
theorem mem_all (kind : DiagnosticKind) : kind ∈ all := by
  cases kind <;> decide

end DiagnosticKind

structure Diagnostic where
  kind : DiagnosticKind
  message : String
deriving DecidableEq, Repr

namespace Diagnostic

/-- The kind and the message on one line. -/
def display (d : Diagnostic) : String :=
  d.kind.title ++ ": " ++ d.message

def expectedGraph (statement : String) : Diagnostic :=
  ⟨.unparsableLine, "expected a graph statement, found " ++ quoted statement⟩

def unreadableLine (statement : String) : Diagnostic :=
  ⟨.unparsableLine, "can't read line " ++ quoted statement⟩

def unreadableAttributes (owner rest : String) : Diagnostic :=
  ⟨.unparsableAttributes, "can't read attributes for " ++ owner ++ " from " ++ quoted rest⟩

def openGraphs (count : Nat) : Diagnostic :=
  ⟨.unterminatedGraph, "input ended with " ++ toString count ++ " open graph(s)"⟩

def newerVersion (version newest : String) : Diagnostic :=
  ⟨.unsupportedVersion, "unsupported xdotversion " ++ version ++
    "; this reader understands up to " ++ newest⟩

def invalidAttribute (name value : String) : Diagnostic :=
  ⟨.invalidAttribute, "can't read graph attribute " ++ name ++ "=" ++ quoted value⟩

def unknownScheme (scheme : String) : Diagnostic :=
  ⟨.unknownColorScheme, "unknown color scheme " ++ scheme⟩

def unknownColor (literal scheme : String) : Diagnostic :=
  ⟨.unknownColor, "unknown color " ++ literal ++ "; color scheme is " ++ scheme⟩

def missingOperand (op entity : String) : Diagnostic :=
  ⟨.malformedInstruction, "missing or malformed operand for " ++ quoted op ++ " in " ++ entity⟩

def droppedSpline (entity : String) (count : Nat) : Diagnostic :=
  ⟨.malformedInstruction, "dropping incomplete B-spline segment in " ++ entity ++ ": " ++
    toString count ++ " points is not 4 + 3k"⟩

def unknownStyle (style entity : String) : Diagnostic :=
  ⟨.unknownStyle, "unknown style " ++ quoted style ++ " in " ++ entity⟩

def unknownOp (op entity : String) : Diagnostic :=
  ⟨.unknownOpCode, "unknown op-code " ++ quoted op ++ " in " ++ entity⟩

def failedImage (source : String) : Diagnostic :=
  ⟨.imageFailed, "image " ++ quoted source ++ " could not be loaded"⟩

end Diagnostic
end XdotViewer
