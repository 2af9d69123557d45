import XdotViewer.CommandLine.World
import XdotViewer.OrderedMap
import XdotViewer.Text.Fields

/-! # Files in memory

A directory is a map from paths to contents. A path is a list of names; every path that begins the
path of a file is a directory. Around it is a world of which little is known: the folders above, and
from the root on the place of the empty device and of the standard input.
-/

namespace XdotViewer.CommandLine

abbrev FilePath := List (List Char)

structure Directory where
  files : OrderedMap FilePath Content

namespace Directory

/-- A directory with texts in it. -/
def ofTexts (texts : List (String × String)) : Directory :=
  ⟨.ofList (texts.map fun (path, text) => (fields '/' path.toList, .text text))⟩

/-- Where a path leads. -/
inductive Place where
  /-- In the directory itself. -/
  | inside (path : FilePath)
  /-- From a folder above the directory, of which only the way up is known. -/
  | outside (path : FilePath)
  /-- From the root. -/
  | rooted (path : FilePath)
deriving DecidableEq, Repr

namespace Place

def enter (name : List Char) : Place → Place
  | inside path => inside (path ++ [name])
  | outside path => outside (path ++ [name])
  | rooted path => rooted (path ++ [name])

/-- The folder of a place. The topmost folder is its own. -/
def parent : Place → Place
  | inside [] => outside []
  | inside path => inside path.dropLast
  | outside path => outside path.dropLast
  | rooted path => rooted path.dropLast

end Place

def devices : FilePath :=
  ["dev".toList]

/-- What is read from here is empty, and what is written is lost. -/
def emptyDevice : Place :=
  .rooted (devices ++ ["null".toList])

def inputDevice : Place :=
  .rooted (devices ++ ["stdin".toList])

def isDirectory (directory : Directory) : Place → Bool
  | .inside path =>
    path.isEmpty || directory.files.keys.any fun file => path.isPrefixOf file && path != file
  | .outside path => path.isEmpty
  | .rooted path => path.isEmpty || path == devices

def isFile (directory : Directory) : Place → Bool
  | .inside path => directory.files.contains path
  | place => place = emptyDevice || place = inputDevice

/-- A name may have this many bytes. -/
def maxName : Nat := 255

/-- A path may have this many bytes. -/
def maxPath : Nat := 4095

/-- Follows names from a directory. -/
def walk (directory : Directory) : Place → FilePath → Except FileError Place
  | place, [] => .ok place
  | place, name :: rest =>
    if !directory.isDirectory place then
      .error (if directory.isFile place then .notDirectory else .notFound)
    else if name = [] ∨ name = ['.'] then directory.walk place rest
    else if name = ['.', '.'] then directory.walk place.parent rest
    else if maxName < (name.map Char.utf8Size).foldl (· + ·) 0 then .error .nameTooLong
    else directory.walk (place.enter name) rest

/-- Where a path starts, and the names in it. -/
def route (path : List Char) : Except FileError (Place × FilePath) :=
  if '\x00' ∈ path then .error .nulCharacter
  else if path = [] then .error .notFound
  else if maxPath < (path.map Char.utf8Size).foldl (· + ·) 0 then .error .nameTooLong
  else .ok (if path.head? = some '/' then .rooted [] else .inside [], fields '/' path)

def read (directory : Directory) (input : ByteArray) (path : String) :
    Except FileError ByteArray := do
  let (start, names) ← route path.toList
  let place ← directory.walk start names
  if directory.isDirectory place then throw .isDirectory
  else if place = emptyDevice then return .empty
  else if place = inputDevice then return input
  else
    match place with
    | .inside path =>
      match directory.files.get? path with
      | some content => return content.bytes
      | none => throw .notFound
    | _ => throw .notFound

/-- Writes a file into a directory that exists. A slash at the end asks for a directory, which no
file can be. What is written outside is not kept. -/
def write (directory : Directory) (path : String) (content : Content) :
    Except FileError Directory := do
  let (start, names) ← route path.toList
  if path.endsWith "/" then
    let folders := (names.reverse.dropWhile List.isEmpty).drop 1
    let _ ← directory.walk start (folders.reverse ++ [['.']])
    throw .isDirectory
  else
    let place ← directory.walk start names
    if directory.isDirectory place then throw .isDirectory
    else
      match place with
      | .inside path => return ⟨directory.files.insert path content⟩
      | _ => return directory

/-- The world of a run on this directory. No format of pictures can be read. -/
def world (input : ByteArray) : World (StateM Directory) where
  input := return input
  load path := return (← get).read input path
  store path content := do
    match (← get).write path content with
    | .ok directory =>
      set directory
      return .ok ()
    | .error error => return .error error
  decodeImage _ := none

/-- Whether a file holds a text that is known. -/
def holdsText (directory : Directory) (path : FilePath) (content : Content) : Bool :=
  match directory.files.get? path, content with
  | some (.text old), .text new => old == new
  | _, _ => false

/-- The files directly in this directory that another one lacks or has otherwise, by name. -/
def changes (directory before : Directory) : List (String × Content) :=
  let changed := directory.files.entries.filterMap fun (path, content) =>
    match path with
    | [name] =>
      if before.holdsText path content then none else some (String.ofList name, content)
    | _ => none
  changed.mergeSort fun a b => decide (a.1 ≤ b.1)

end Directory
end XdotViewer.CommandLine
