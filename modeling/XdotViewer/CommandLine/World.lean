import XdotViewer.Raster.Png

/-! # The world of the command line

A run reads its input and files and writes at most one file. What it reads from and writes to is
given by a record, so the same run works on a disk and on files held in memory.
-/

namespace XdotViewer.CommandLine

inductive FileError where
  | notFound
  | notDirectory
  | isDirectory
  | nameTooLong
  | permissionDenied
  /-- A name holds the character that ends names. -/
  | nulCharacter
  /-- The bytes are no text. -/
  | notText
  | other (text : String)
deriving DecidableEq, Repr

def FileError.message : FileError → String
  | notFound => "No such file or directory (os error 2)"
  | notDirectory => "Not a directory (os error 20)"
  | isDirectory => "Is a directory (os error 21)"
  | nameTooLong => "File name too long (os error 36)"
  | permissionDenied => "Permission denied (os error 13)"
  | nulCharacter => "file name contained an unexpected NUL byte"
  | notText => "stream did not contain valid UTF-8"
  | other text => text

/-- What a run writes to a file. -/
inductive Content where
  | text (text : String)
  | png (picture : Raster)

def Content.bytes : Content → ByteArray
  | text content => content.toUTF8
  | png picture => Png.encode picture

structure World (m : Type → Type) where
  /-- The whole standard input. -/
  input : m ByteArray
  load : String → m (Except FileError ByteArray)
  store : String → Content → m (Except FileError Unit)
  /-- Reads the picture in the bytes of a file. -/
  decodeImage : ByteArray → Option Raster

/-- The text that some bytes encode. -/
def decodeText (bytes : ByteArray) : Except FileError String :=
  match String.fromUTF8? bytes with
  | some text => .ok text
  | none => .error .notText

end XdotViewer.CommandLine
