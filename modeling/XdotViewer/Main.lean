import XdotViewer.CommandLine

/-! # The program

The command line on the disk, with the standard streams.
-/

namespace XdotViewer.CommandLine

def fileErrorOf : IO.Error → FileError
  | .noFileOrDirectory .. => .notFound
  | .permissionDenied .. => .permissionDenied
  | .inappropriateType .. => .isDirectory
  | error => .other (toString error)

/-- Runs an action on files and keeps its error. -/
def attempt {α : Type} (action : IO α) : IO (Except FileError α) := do
  try
    return .ok (← action)
  catch error => return .error (fileErrorOf error)

partial def readAll (stream : IO.FS.Stream) (done : ByteArray) : IO ByteArray := do
  let bytes ← stream.read 65536
  if bytes.isEmpty then return done else readAll stream (done ++ bytes)

/-- Files on the disk. No format of pictures can be read, so a picture shows the sign for a missing
one in place of every image. -/
def disk : World IO where
  input := do readAll (← IO.getStdin) .empty
  load path := attempt (IO.FS.readBinFile path)
  store path content := attempt (IO.FS.writeBinFile path content.bytes)
  decodeImage _ := none

end XdotViewer.CommandLine

def main (words : List String) : IO UInt32 := do
  let report ← XdotViewer.CommandLine.run XdotViewer.CommandLine.disk words
  IO.print report.stdout
  IO.eprint report.stderr
  return .ofNat report.exitCode
