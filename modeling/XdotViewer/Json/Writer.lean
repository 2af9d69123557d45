import XdotViewer.Json
import XdotViewer.Text.Hexadecimal

/-! # Writing JSON

Two styles: everything on one line, or one item a line with an indentation of two spaces. Doubles
have the fewest digits that read back; those that are no finite number are written as `null`, and so
is what could not be read.
-/

namespace XdotViewer.Json

/-- Doubles are positional while the leading digit's exponent lies in -5 .. 15. -/
def numbers : Layout where
  positional := some (-5, 15)
  pointZero := true
  tie := .even
  nan := "null"
  infinity := "null"
  negativeInfinity := "null"

/-- Quotes, backslashes and control characters are escaped. -/
def escape (c : Char) : List Char :=
  match c with
  | '"' => ['\\', '"']
  | '\\' => ['\\', '\\']
  | '\n' => ['\\', 'n']
  | '\r' => ['\\', 'r']
  | '\t' => ['\\', 't']
  | '\x08' => ['\\', 'b']
  | '\x0c' => ['\\', 'f']
  | _ => if c.toNat < 0x20 then ['\\', 'u', '0', '0'] ++ Hexadecimal.pair c.toNat else [c]

def writeText (text : String) : String :=
  String.ofList ('"' :: text.toList.flatMap escape ++ ['"'])

/-- Where an item begins: directly, or on a line of its own at some depth. -/
def lineStart (pretty : Bool) (depth : Nat) : String :=
  if pretty then String.ofList ('\n' :: List.replicate (2 * depth) ' ') else ""

mutual

def writeAt (pretty : Bool) (depth : Nat) : Json → String
  | null | unreadable => "null"
  | bool value => if value then "true" else "false"
  | int value => toString value
  | float value => numbers.write value
  | str text => writeText text
  | arr [] => "[]"
  | arr (item :: items) =>
    "[" ++ lineStart pretty (depth + 1) ++ writeAt pretty (depth + 1) item ++
      writeItems pretty (depth + 1) items ++ lineStart pretty depth ++ "]"
  | obj [] => "\x7b\x7d"
  | obj ((name, value) :: fields) =>
    "\x7b" ++ lineStart pretty (depth + 1) ++ writeText name ++ (if pretty then ": " else ":") ++
      writeAt pretty (depth + 1) value ++ writeFields pretty (depth + 1) fields ++
      lineStart pretty depth ++ "\x7d"

def writeItems (pretty : Bool) (depth : Nat) : List Json → String
  | [] => ""
  | item :: items =>
    "," ++ lineStart pretty depth ++ writeAt pretty depth item ++ writeItems pretty depth items

def writeFields (pretty : Bool) (depth : Nat) : List (String × Json) → String
  | [] => ""
  | (name, value) :: fields =>
    "," ++ lineStart pretty depth ++ writeText name ++ (if pretty then ": " else ":") ++
      writeAt pretty depth value ++ writeFields pretty depth fields

end

/-- Writes a value on one line, or spread over lines. -/
def write (pretty : Bool) (value : Json) : String :=
  writeAt pretty 0 value

end XdotViewer.Json
