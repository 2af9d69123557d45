import XdotViewer.Decimal.Literal
import XdotViewer.Options
import XdotViewer.Text.Blank

/-! # Command-line arguments

Arguments are read from left to right; of repeated options the last counts, but an input may be
named only once. Anything that is not understood asks for the usage text.
-/

namespace XdotViewer.CommandLine

inductive Command where
  | parse
  | render
deriving DecidableEq, Repr

inductive Format where
  | png
  | ops
  | html
deriving DecidableEq, Repr

/-- A format by its name, in any letter case and with blanks around it. -/
def Format.ofText? (text : String) : Option Format :=
  match String.ofList ((trim text.toList).map Char.toLower) with
  | "png" => some png
  | "ops" => some ops
  | "html" => some html
  | _ => none

structure Arguments where
  command : Command := .parse
  /-- The file to read; nothing and a single hyphen mean the standard input. -/
  input : Option String := none
  pretty : Bool := false
  format : Format := .png
  /-- The file that holds options. -/
  config : Option String := none
  scale : Option Float := none
  padding : Option Float := none
  imageBase : Option String := none
  dashLength : Option Float := none
  dotSpacing : Option Float := none
  out : Option String := none

namespace Arguments

def positive? (text : String) : Option Float :=
  (readFloat? text.toList).filter fun value => value.isFinite && 0.0 < value

def notNegative? (text : String) : Option Float :=
  (readFloat? text.toList).filter fun value => value.isFinite && 0.0 ≤ value

def setInput? (arguments : Arguments) (path : String) : Option Arguments :=
  if arguments.input.isSome then none else some { arguments with input := some path }

/-- An option with its value. There is no answer for a name that takes none, and an empty one for
a value that does not fit. -/
def setOption? (arguments : Arguments) (name value : String) : Option (Option Arguments) :=
  match name with
  | "--format" => some ((Format.ofText? value).map fun format => { arguments with format })
  | "--config" => some (some { arguments with config := some value })
  | "--scale" => some ((positive? value).map fun scale => { arguments with scale })
  | "--padding" => some ((notNegative? value).map fun padding => { arguments with padding })
  | "--image-path" => some (some { arguments with imageBase := some value })
  | "--dash-length" =>
    some ((positive? value).map fun dashLength => { arguments with dashLength })
  | "--dot-spacing" =>
    some ((positive? value).map fun dotSpacing => { arguments with dotSpacing })
  | "--out" | "-o" => some (some { arguments with out := some value })
  | _ => none

/-- An argument that stands for itself: a command, a flag or the input. -/
def setWord? (arguments : Arguments) (word : String) : Option Arguments :=
  match word with
  | "parse" => some { arguments with command := .parse }
  | "render" => some { arguments with command := .render }
  | "--pretty" => some { arguments with pretty := true }
  | "-" => arguments.setInput? word
  | _ => if word.startsWith "-" then none else arguments.setInput? word

/-- Reads the arguments that are left. After two hyphens at most an input may follow. -/
def readFrom? (arguments : Arguments) : List String → Option Arguments
  | [] => some arguments
  | ["--"] => some arguments
  | ["--", path] => arguments.setInput? path
  | "--" :: _ => none
  | word :: value :: rest =>
    match arguments.setOption? word value with
    | some changed => changed.bind fun arguments => readFrom? arguments rest
    | none => (arguments.setWord? word).bind fun arguments => readFrom? arguments (value :: rest)
  | [word] => arguments.setWord? word

def read? (words : List String) : Option Arguments :=
  readFrom? {} words

/-- Replaces options by the ones that are given. -/
def override (arguments : Arguments) (options : Options) : Options where
  scale := arguments.scale.getD options.scale
  padding := arguments.padding.getD options.padding
  imageBase := arguments.imageBase.getD options.imageBase
  dashLength := arguments.dashLength.getD options.dashLength
  dotSpacing := arguments.dotSpacing.getD options.dotSpacing

end Arguments

/-- The text that explains the arguments. -/
def usage : String :=
  "\n".intercalate [
    "canviz-cli",
    "",
    "USAGE:",
    "canviz-cli [parse] [--pretty] [<path>|-]",
    "canviz-cli render [--format png|ops|html] [--config <options.json>] [--scale <n>] " ++
      "[--padding <px>] [--image-path <prefix>] [--dash-length <n>] [--dot-spacing <n>] " ++
      "[--pretty] [--out <path>] [<path>|-]",
    "",
    "NOTES:",
    "- Input is Graphviz xdot output (e.g. `dot -Txdot graph.dot`).",
    "- If <path> is omitted or '-', input is read from stdin.",
    "- parse prints the scene graph, document metadata and diagnostics as JSON.",
    "- render --format ops prints the recorded drawing operations as JSON; html prints the text " ++
      "overlay.",
    "- PNG output defaults to writing next to the input file (or ./out.png for stdin).",
    "- Images referenced by the drawing are read from disk, prefixed with --image-path.",
    "- Set RUST_LOG (default `warn`) to see diagnostics and render passes on stderr.",
    ""]

end XdotViewer.CommandLine
