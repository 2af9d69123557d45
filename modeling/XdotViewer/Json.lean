import XdotViewer.Decimal.Layout

/-! # JSON values

Whole numbers and doubles are kept apart, and the fields of an object keep their order. A value may
be well formed and still hold no text.
-/

namespace XdotViewer

inductive Json where
  | null
  | bool (value : Bool)
  | int (value : Int)
  | float (value : Float)
  | str (text : String)
  | arr (items : List Json)
  | obj (fields : List (String × Json))
  /-- A string with an escape for no character, or an object with such a name. -/
  | unreadable
deriving Inhabited

namespace Json

/-- The last value of a field, if the value is an object that has it. -/
def field? (name : String) : Json → Option Json
  | obj fields => (fields.reverse.find? fun field => field.1 == name).map Prod.snd
  | _ => none

/-- A number of either kind as a double. -/
def number? : Json → Option Float
  | int value => some (floatOfSigned (decide (value < 0)) value.natAbs)
  | float value => some value
  | _ => none

def text? : Json → Option String
  | str text => some text
  | _ => none

end Json
end XdotViewer
