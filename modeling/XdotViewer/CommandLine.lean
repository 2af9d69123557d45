import XdotViewer.Canvas
import XdotViewer.CommandLine.Arguments
import XdotViewer.CommandLine.World
import XdotViewer.Document.Record
import XdotViewer.Json.Reader
import XdotViewer.Json.Writer
import XdotViewer.Overlay.Html
import XdotViewer.Raster.Painter
import XdotViewer.Viewer.Completion

/-! # Running a command

`parse` prints a document as data. `render` draws it and prints the operations or the overlay, or
writes a picture. A run ends with an exit code: 0, 1 after an error, 2 with the usage text, 3 when
there is no graph in the input. A text that is shown endlessly is never printed: then a run has no
end, and its report is what there would be without the endless strokes.
-/

namespace XdotViewer.CommandLine

inductive RunError where
  | usage
  | file (error : FileError)
  /-- The configuration holds no options. -/
  | options
  | viewer (error : ViewerError)
deriving DecidableEq, Repr

namespace RunError

def message : RunError → String
  | usage => CommandLine.usage
  | file error => "I/O error: " ++ error.message
  | options => "JSON error: these are no options"
  | viewer error => error.message

def exitCode : RunError → Nat
  | usage => 2
  | viewer (.read .noGraph) => 3
  | _ => 1

end RunError

/-- What a run leaves besides the file it has written. -/
structure Report where
  exitCode : Nat
  stdout : String
  stderr : String
deriving DecidableEq, Repr

def Report.ofOutcome : Except RunError String → Report
  | .ok text => ⟨0, text, ""⟩
  | .error error => ⟨error.exitCode, "", error.message ++ "\n"⟩

/-- A file name without its extension; a point at its start begins none. -/
def stem (name : List Char) : List Char :=
  match (fields '.' name).reverse with
  | _ :: first :: rest =>
    if rest.isEmpty && first.isEmpty then name
    else List.intercalate ['.'] (first :: rest).reverse
  | _ => name

/-- The path of the picture that goes with an input file: its extension is replaced. A name that is
only a point in front of its extension stands for the folder above. -/
def picturePath (path : String) : String :=
  match (fields '/' path.toList).reverse with
  | name :: folders =>
    let picture := if stem name = ['.'] then ['.', '.'] else stem name ++ ".png".toList
    String.ofList (List.intercalate ['/'] (picture :: folders).reverse)
  | [] => path

/-- Where a picture goes when no place is given. -/
def defaultPicturePath (input : Option String) : String :=
  match input with
  | some path => if path = "-" then "out.png" else picturePath path
  | none => "out.png"

variable {m : Type → Type} [Monad m]

/-- Steps of a run: they may fail. -/
abbrev Run (m : Type → Type) := ExceptT RunError m

def ofFile {α : Type} (result : Except FileError α) : Except RunError α :=
  result.mapError .file

def readText (world : World m) (path : String) : Run m String := do
  let bytes ← ofFile (← world.load path)
  ofFile (decodeText bytes)

/-- The text to work on: a file or the standard input. -/
def readInput (world : World m) (input : Option String) : Run m String := do
  match input with
  | some path =>
    if path = "-" then ofFile (decodeText (← world.input)) else readText world path
  | none => ofFile (decodeText (← world.input))

/-- Prints a text, or writes it to a file and prints nothing. -/
def emit (world : World m) (out : Option String) (text : String) : Run m String := do
  match out with
  | none => return text
  | some path =>
    ofFile (← world.store path (.text text))
    return ""

def readOptions (world : World m) (arguments : Arguments) : Run m Options := do
  let options ← match arguments.config with
    | none => pure {}
    | some path =>
      match (Json.readLoose? (← readText world path)).bind Options.ofJson? with
      | some options => pure options
      | none => throw .options
  return arguments.override options

/-- Loads an image whose contents do not matter. -/
def findImage (world : World m) (request : ImageRequest) : m (Option Unit) := do
  return match ← world.load request.path with
    | .ok _ => some ()
    | .error _ => none

/-- Loads an image as a picture. -/
def loadImage (world : World m) (request : ImageRequest) : m (Option Raster) := do
  return match ← world.load request.path with
    | .ok bytes => world.decodeImage bytes
    | .error _ => none

/-- Draws a text on a canvas that only records. -/
def record (world : World m) (options : Options) (text : String) :
    Run m (Viewer.Shown Unit) := do
  let shown : Except ViewerError (Viewer.Shown Unit) ←
    liftM (Viewer.showText (fun _ _ => true) (findImage world) options text)
  shown.mapError RunError.viewer

/-- Draws a text as a picture. -/
def drawPicture (load : ImageRequest → m (Option Raster)) (options : Options) (text : String) :
    m (Except ViewerError Raster) := do
  let shown ← Viewer.showText Raster.fits load options text
  return shown.map fun shown => ((Painter.new 1 1).applyAll shown.ops).raster

/-- The recorded operations as data, with the size of the canvas. -/
def opsToJson (ops : List (DrawOp Unit)) (viewer : Viewer Unit) : Json :=
  let overlay := viewer.drawing.overlay
  .obj [("width", .int overlay.width), ("height", .int overlay.height),
    ("ops", .arr (ops.map DrawOp.toJson))]

def writeJson (pretty : Bool) (value : Json) : String :=
  value.write pretty ++ "\n"

def runParse (world : World m) (arguments : Arguments) (text : String) : Run m String := do
  match Document.read .standard text with
  | .error error => throw (.viewer (.read error))
  | .ok document => emit world arguments.out (writeJson arguments.pretty document.toJson)

def runRender (world : World m) (arguments : Arguments) (text : String) : Run m String := do
  let options ← readOptions world arguments
  match arguments.format with
  | .png =>
    let picture : Except ViewerError Raster ←
      liftM (drawPicture (loadImage world) options text)
    let picture ← picture.mapError RunError.viewer
    let path := arguments.out.getD (defaultPicturePath arguments.input)
    ofFile (← world.store path (.png picture))
    return ""
  | .ops =>
    let shown ← record world options text
    emit world arguments.out (writeJson arguments.pretty (opsToJson shown.ops shown.viewer))
  | .html =>
    let shown ← record world options text
    emit world arguments.out shown.viewer.drawing.overlay.html

def runArguments (world : World m) (arguments : Arguments) : Run m String := do
  let text ← readInput world arguments.input
  match arguments.command with
  | .parse => runParse world arguments text
  | .render => runRender world arguments text

/-- Runs a command given by its words. -/
def run (world : World m) (words : List String) : m Report := do
  match Arguments.read? words with
  | none => return .ofOutcome (.error .usage)
  | some arguments => return .ofOutcome (← (runArguments world arguments).run)

end XdotViewer.CommandLine
