import XdotViewer.Json
import XdotViewer.Decimal.Literal
import XdotViewer.Text.Hexadecimal

/-! # Reading JSON

The whole text must be one value. A number without fraction and exponent that fits a machine word
is an integer; every other number is a double, which may be infinite when it is out of range.
Escapes may name surrogates, and one without its partner stands for no character. Where such a value
is not looked at it does no harm, so a loose reader keeps its place.
-/

namespace XdotViewer.Json

def isSpace (c : Char) : Bool :=
  c = ' ' || c = '\t' || c = '\n' || c = '\r'

def skipSpace (text : List Char) : List Char :=
  text.dropWhile isSpace

/-- The sixteen-bit unit that four hexadecimal digits name. -/
def unit? (a b c d : Char) : Option Nat := do
  let a ← Hexadecimal.digit? a
  let b ← Hexadecimal.digit? b
  let c ← Hexadecimal.digit? c
  let d ← Hexadecimal.digit? d
  some (((a * 16 + b) * 16 + c) * 16 + d)

def escaped? : Char → Option Char
  | '"' => some '"'
  | '\\' => some '\\'
  | '/' => some '/'
  | 'b' => some '\x08'
  | 'f' => some '\x0c'
  | 'n' => some '\n'
  | 'r' => some '\r'
  | 't' => some '\t'
  | _ => none

/-- The character of two units that form a surrogate pair. -/
def paired? (high low : Nat) : Option Char :=
  if 0xd800 ≤ high ∧ high < 0xdc00 ∧ 0xdc00 ≤ low ∧ low < 0xe000 then
    some (Char.ofNat (0x10000 + (high - 0xd800) * 0x400 + (low - 0xdc00)))
  else none

/-- The character of a unit that stands alone. -/
def alone? (unit : Nat) : Option Char :=
  if 0xd800 ≤ unit ∧ unit < 0xe000 then none else some (Char.ofNat unit)

/-- The unit of an escape, if the text begins with one of four digits. -/
def unitEscape? : List Char → Option Nat
  | '\\' :: 'u' :: a :: b :: c :: d :: _ => unit? a b c d
  | _ => none

/-- Reads a string after its opening quote, given the characters so far in reverse. The result has
no text if an escape stands for no character. -/
def readString (done : Option (List Char)) : List Char → Option (Option String × List Char)
  | [] => none
  | '"' :: rest => some (done.map fun done => String.ofList done.reverse, rest)
  | '\\' :: 'u' :: a :: b :: c :: d :: rest =>
    (unit? a b c d).bind fun high =>
      match rest, (unitEscape? rest).bind (paired? high) with
      | _ :: _ :: _ :: _ :: _ :: _ :: rest, some c => readString (done.map (c :: ·)) rest
      | rest, _ => readString (do return (← alone? high) :: (← done)) rest
  | '\\' :: mark :: rest => (escaped? mark).bind fun c => readString (done.map (c :: ·)) rest
  | c :: rest => if c.toNat < 0x20 then none else readString (done.map (c :: ·)) rest

/-- The whole part of a number: no zero stands before other digits. -/
def readWhole (text : List Char) : Option (List Char × List Char) :=
  match Literal.spanDigits text with
  | ([], _) => none
  | ('0' :: _ :: _, _) => none
  | (digits, rest) => some (digits, rest)

/-- A point with at least one digit after it, if there is a point. -/
def readFraction : List Char → Option (List Char × List Char)
  | '.' :: text =>
    match Literal.spanDigits text with
    | ([], _) => none
    | (digits, rest) => some (digits, rest)
  | text => some ([], text)

/-- An exponent with at least one digit, if there is a mark for it. -/
def readExponent : List Char → Option (Option Int × List Char)
  | mark :: text =>
    if mark = 'e' ∨ mark = 'E' then
      let (negative, text) := Literal.takeSign text
      match Literal.spanDigits text with
      | ([], _) => none
      | (digits, rest) => some (some (Binary64.signed negative (Literal.digitsValue digits)), rest)
    else some (none, mark :: text)
  | [] => some (none, [])

/-- An integer where one fits, a double otherwise; minus zero is a double. -/
def number (negative : Bool) (whole fraction : List Char) (exponent : Option Int) : Json :=
  let value := Literal.digitsValue whole
  let limit := if negative then 0x8000000000000000 else 0xffffffffffffffff
  if fraction = [] ∧ exponent = none ∧ value ≤ limit ∧ ¬ (negative ∧ value = 0) then
    int (Binary64.signed negative value)
  else
    let magnitude := Literal.nearest (whole ++ fraction) (exponent.getD 0 - fraction.length)
    float (if negative then -magnitude else magnitude)

def readNumber (text : List Char) : Option (Json × List Char) := do
  let (negative, text) := match text with
    | '-' :: rest => (true, rest)
    | _ => (false, text)
  let (whole, text) ← readWhole text
  let (fraction, text) ← readFraction text
  let (exponent, text) ← readExponent text
  some (number negative whole fraction exponent, text)

/-- What follows a fixed word. -/
def afterWord (word : List Char) (text : List Char) : Option (List Char) :=
  if word.isPrefixOf text then some (text.drop word.length) else none

mutual

/-- Reads one value; every value takes at least one character of the fuel. -/
def readValue (loose : Bool) : Nat → List Char → Option (Json × List Char)
  | 0, _ => none
  | fuel + 1, text =>
    match skipSpace text with
    | '"' :: rest =>
      match readString (some []) rest with
      | some (some text, rest) => some (str text, rest)
      | some (none, rest) => if loose then some (unreadable, rest) else none
      | none => none
    | '[' :: rest =>
      match skipSpace rest with
      | ']' :: rest => some (arr [], rest)
      | rest => (readItems loose fuel [] rest).map fun (items, rest) => (arr items, rest)
    | '\x7b' :: rest =>
      match skipSpace rest with
      | '\x7d' :: rest => some (obj [], rest)
      | rest => readFields loose fuel (some []) rest
    | 'n' :: rest => (afterWord ['u', 'l', 'l'] rest).map fun rest => (null, rest)
    | 't' :: rest => (afterWord ['r', 'u', 'e'] rest).map fun rest => (bool true, rest)
    | 'f' :: rest => (afterWord ['a', 'l', 's', 'e'] rest).map fun rest => (bool false, rest)
    | rest => readNumber rest

/-- Reads the items of an array up to its end, given the ones so far in reverse. -/
def readItems (loose : Bool) : Nat → List Json → List Char → Option (List Json × List Char)
  | 0, _, _ => none
  | fuel + 1, done, text =>
    match readValue loose fuel text with
    | none => none
    | some (item, rest) =>
      match skipSpace rest with
      | ',' :: rest => readItems loose fuel (item :: done) rest
      | ']' :: rest => some ((item :: done).reverse, rest)
      | _ => none

/-- Reads the fields of an object up to its end, given the ones so far in reverse. There are none if
a name has no text. -/
def readFields (loose : Bool) : Nat → Option (List (String × Json)) → List Char →
    Option (Json × List Char)
  | 0, _, _ => none
  | fuel + 1, done, text =>
    match skipSpace text with
    | '"' :: rest =>
      match readString (some []) rest with
      | none => none
      | some (name, rest) =>
        match skipSpace rest with
        | ':' :: rest =>
          match readValue loose fuel rest with
          | none => none
          | some (value, rest) =>
            let done := do return (← name, value) :: (← done)
            match skipSpace rest with
            | ',' :: rest => readFields loose fuel done rest
            | '\x7d' :: rest =>
              match done with
              | some done => some (obj done.reverse, rest)
              | none => if loose then some (unreadable, rest) else none
            | _ => none
        | _ => none
    | _ => none

end

/-- The value that a text holds, if it holds nothing else. -/
def readAll? (loose : Bool) (text : String) : Option Json :=
  let chars := text.toList
  match readValue loose (2 * chars.length + 2) chars with
  | some (value, rest) => if skipSpace rest = [] then some value else none
  | none => none

/-- The value that a text holds, where every escape has to stand for a character. -/
def read? (text : String) : Option Json :=
  readAll? false text

/-- The value that a text holds, where some parts of it may be unreadable. -/
def readLoose? (text : String) : Option Json :=
  readAll? true text

end XdotViewer.Json
