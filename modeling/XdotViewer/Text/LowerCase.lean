import XdotViewer.Text.LowerCase.Table

/-! # Lower case

Names of colors and color schemes are compared in lower case, by the full Unicode mapping: one
letter has a small form of two characters, and a sigma at the end of a word has a form of its own.
-/

namespace XdotViewer

namespace LowerCase

/-- The code point of the small letter, if the character is a capital with a single one. -/
def shifted? (code : Nat) : Option Nat :=
  (runs.find? fun run =>
      run.first ≤ code && code ≤ run.last && (code - run.first) % run.step == 0).map fun run =>
    ((code : Int) + run.shift).toNat

def ofChar (c : Char) : List Char :=
  if c.toNat < 0x80 then [c.toLower]
  else if c.toNat = 0x130 then ['i', '\u0307']
  else match shifted? c.toNat with
    | some code => [Char.ofNat code]
    | none => [c]

/-- Whether a letter with case is the nearest character that is not looked through. -/
def nextIsCased (text : List Char) : Bool :=
  match text.dropWhile ignorable.contains with
  | [] => false
  | c :: _ => cased.contains c

/-- Lower case of a text, given what stands before it, nearest first. -/
def after : List Char → List Char → List Char
  | _, [] => []
  | before, c :: rest =>
    let small :=
      if c.toNat = 0x3a3 then
        if nextIsCased before && !nextIsCased rest then ['\u03c2'] else ['\u03c3']
      else ofChar c
    small ++ after (c :: before) rest

end LowerCase

def lowerCase (text : String) : String :=
  String.ofList (LowerCase.after [] text.toList)

end XdotViewer
