import XdotViewer.Text.Blank
import XdotViewer.Text.Fields

/-! # Lines and statements

A document is read by logical lines. A logical line goes on until it ends a statement, so it may
take several lines of the text. Statements are cut out of it at the semicolons and braces that
stand outside quotes, markup and attribute lists.
-/

namespace XdotViewer

/-- What encloses a character. -/
inductive Enclosure where
  | plain
  /-- A quoted string; `escaped` after a backslash. -/
  | quoted (escaped : Bool)
  /-- Markup with the number of open brackets inside it. -/
  | markup (inner : Nat)
deriving DecidableEq, Repr

/-- Where a scan of statement text stands. -/
structure Nesting where
  enclosure : Enclosure
  /-- How many attribute lists are open. -/
  lists : Nat
deriving DecidableEq, Repr

namespace Nesting

def start : Nesting :=
  ⟨.plain, 0⟩

/-- Moves past a character; the flag says whether it stands outside of everything. -/
def feed (nesting : Nesting) (c : Char) : Nesting × Bool :=
  match nesting.enclosure with
  | .quoted true => ({ nesting with enclosure := .quoted false }, false)
  | .quoted false =>
    let enclosure : Enclosure :=
      if c = '\\' then .quoted true else if c = '"' then .plain else .quoted false
    ({ nesting with enclosure }, false)
  | .markup inner =>
    let enclosure : Enclosure :=
      if c = '<' then .markup (inner + 1)
      else if c = '>' then (match inner with | 0 => .plain | less + 1 => .markup less)
      else .markup inner
    ({ nesting with enclosure }, false)
  | .plain =>
    if c = '"' then ({ nesting with enclosure := .quoted false }, false)
    else if c = '<' then ({ nesting with enclosure := .markup 0 }, false)
    else if c = '[' then ({ nesting with lists := nesting.lists + 1 }, false)
    else if c = ']' then ({ nesting with lists := nesting.lists - 1 }, false)
    else (nesting, nesting.lists == 0)

end Nesting

/-- Whether the last character that is no blank ends a statement, `done` being the answer so far. -/
def endsStatement (nesting : Nesting) (done : Bool) : List Char → Bool
  | [] => done
  | c :: rest =>
    let (after, outside) := nesting.feed c
    let done := if isBlank c then done else outside && (c == ';' || c == '{' || c == '}')
    endsStatement after done rest

def isComplete (line : List Char) : Bool :=
  endsStatement .start false line

/-- Drops one carriage return at the end. -/
def dropReturn (line : List Char) : List Char :=
  if line.getLast? = some '\r' then line.dropLast else line

/-- The lines between line breaks, without the return before a break. A break at the end of the
text starts no line. -/
def physicalLines (text : List Char) : List (List Char) :=
  let lines := fields '\n' text
  let last := lines.getLastD []
  lines.dropLast.map dropReturn ++ if last = [] then [] else [last]

/-- Drops one backslash at the end. -/
def dropContinuation (line : List Char) : List Char :=
  if line.getLast? = some '\\' then line.dropLast else line

/-- Whether a line at the start of a statement holds nothing: it is empty or a comment. -/
def isSkipped (line : List Char) : Bool :=
  match line with
  | [] => true
  | c :: _ => c == '#'

/-- Joins lines into logical ones, given the logical line that is still open. -/
def joinLines : Option (List Char) → List (List Char) → List (List Char)
  | none, [] => []
  | some line, [] => [line]
  | none, raw :: rest =>
    let line := trimStart raw
    if isSkipped line then joinLines none rest
    else if isComplete line then line :: joinLines none rest
    else joinLines (some line) rest
  | some line, raw :: rest =>
    let line := dropContinuation line ++ raw
    if isComplete line then line :: joinLines none rest
    else joinLines (some line) rest

def logicalLines (text : List Char) : List (List Char) :=
  joinLines none (physicalLines text)

/-- The statement that ends here, if there is anything in it; its text comes in reverse. -/
def settle (reversed : List Char) : List (List Char) :=
  match trim reversed.reverse with
  | [] => []
  | statement => [statement]

/-- Cuts a logical line into statements. An opening brace ends its statement and stays in it; a
closing brace is a statement of its own. -/
def cutStatements (nesting : Nesting) (reversed : List Char) : List Char → List (List Char)
  | [] => settle reversed
  | c :: rest =>
    let (after, outside) := nesting.feed c
    if outside && c == '{' then settle (c :: reversed) ++ cutStatements after [] rest
    else if outside && c == '}' then settle reversed ++ [c] :: cutStatements after [] rest
    else if outside && c == ';' then settle reversed ++ cutStatements after [] rest
    else cutStatements after (c :: reversed) rest

def splitStatements (line : List Char) : List (List Char) :=
  cutStatements .start [] line

/-- The statements of a text. -/
def statementTexts (text : List Char) : List (List Char) :=
  (logicalLines text).flatMap splitStatements

end XdotViewer
