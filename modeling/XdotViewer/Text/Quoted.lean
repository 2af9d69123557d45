import XdotViewer.Text.Hexadecimal
import XdotViewer.Text.Quoted.Table

/-! # Quoted texts in messages

A message shows a text between double quotes. Quotes and backslashes are escaped, and so is every
character that would not be seen.
-/

namespace XdotViewer

namespace Quoted

/-- Whether a character would not be seen by itself. -/
def isHidden (c : Char) : Bool :=
  c.toNat < 0x20 || c.toNat = 0x7f || (0x80 ≤ c.toNat && hidden.contains c)

def escape (c : Char) : List Char :=
  match c with
  | '"' => ['\\', '"']
  | '\\' => ['\\', '\\']
  | '\t' => ['\\', 't']
  | '\r' => ['\\', 'r']
  | '\n' => ['\\', 'n']
  | '\x00' => ['\\', '0']
  | _ => if isHidden c then ['\\', 'u', '\x7b'] ++ Hexadecimal.digits c.toNat ++ ['\x7d'] else [c]

end Quoted

/-- A text as a message shows it. -/
def quoted (text : String) : String :=
  String.ofList ('"' :: text.toList.flatMap Quoted.escape ++ ['"'])

end XdotViewer
