import XdotViewer.Json

/-! # Settings in JSON

A group of settings is an object with any of the known names, or an array of values in the order of
the names. A setting that is not given keeps its default; one of the wrong type spoils the group.
-/

namespace XdotViewer.Json

/-- The settings that are given. Unknown names are passed over; a known one may occur only once. -/
def settings? (names : List String) : Json → Option (List (String × Json))
  | obj fields =>
    let known := fields.filter fun field => names.contains field.1
    if names.all fun name => known.countP (fun field => field.1 == name) ≤ 1 then some known
    else none
  | arr items => if items.length ≤ names.length then some (names.zip items) else none
  | _ => none

/-- A setting, or its default. -/
def setting {α : Type} (given : List (String × Json)) (name : String) (default : α)
    (read : Json → Option α) : Option α :=
  match given.find? fun field => field.1 == name with
  | some (_, value) => read value
  | none => some default

/-- A finite number. -/
def finite? (value : Json) : Option Float :=
  value.number?.filter Float.isFinite

def bool? : Json → Option Bool
  | bool value => some value
  | _ => none

/-- Texts by name; of equal names the last counts. -/
def texts? : Json → Option (List (String × String))
  | obj fields => fields.mapM fun (name, value) => value.text?.map fun text => (name, text)
  | _ => none

/-- One of some named values: its name, or an object that gives `null` for its name. -/
def choice? {α : Type} (choices : List α) (key : α → String) : Json → Option α
  | str name => choices.find? fun choice => key choice == name
  | obj [(name, null)] => choices.find? fun choice => key choice == name
  | _ => none

end XdotViewer.Json
