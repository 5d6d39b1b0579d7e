import ConfigRefs.CommandLine.Run

/-!
# Main: the command line on the file system of the machine
-/

namespace ConfigRefs

open ConfigRefs.Configuration ConfigRefs.CommandLine

/-- The answer of an action, and nothing if the action fails. -/
def orNothing {α : Type} (act : IO α) : IO (Option α) := do
  try return some (← act)
  catch _ => return none

/-- The place of an absolute path without detours. -/
def placeOfPath (path : String) : Place := (path.splitOn "/").filter (· != "")

/-- The path of a path that is taken from a place. -/
def pathFrom (place : Place) (path : String) : String :=
  if path.startsWith "/" then path else place.render ++ "/" ++ path

/-- The place that a path leads to. -/
def resolveOnDisk (place : Place) (path : String) : IO (Option Place) :=
  if path.isEmpty then return none
  else orNothing do
    let found ← IO.FS.realPath (pathFrom place path)
    let _ ← found.metadata
    return placeOfPath found.toString

/-- The names in a directory, each with whether it is a regular file. -/
def listOnDisk (place : Place) : IO (Option (List (String × Bool))) :=
  orNothing do
    let directory ← IO.FS.realPath place.render
    let items ← directory.readDir
    items.toList.mapM fun item => do
      let kind := (← item.path.symlinkMetadata).type
      return (item.fileName, kind matches .file)

/-- The file system of the machine. -/
def disk : FileSystem IO where
  resolve := resolveOnDisk
  list := listOnDisk
  read place := orNothing (IO.FS.readBinFile place.render)

/-- All of the standard input, and nothing if it is no text. -/
partial def readStandardInput (stream : IO.FS.Stream) (before : ByteArray) :
    IO (Option String) := do
  let bytes ← stream.read 65536
  if bytes.isEmpty then return String.fromUTF8? before
  else readStandardInput stream (before ++ bytes)

end ConfigRefs

open ConfigRefs ConfigRefs.CommandLine in
/-- Runs the arguments of the program in the directory it is started in. -/
def main (arguments : List String) : IO UInt32 := do
  let start := placeOfPath (← IO.FS.realPath ".").toString
  let standardInput ←
    match request? arguments with
    | some (.job job) =>
      if job.input.isStandard then readStandardInput (← IO.getStdin) .empty else pure (some "")
    | _ => pure (some "")
  match standardInput with
  | none =>
    IO.eprintln "stream did not contain valid UTF-8"
    return 1
  | some text =>
    let outcome ← run disk start arguments text
    IO.print outcome.output
    unless outcome.message.isEmpty do
      IO.eprintln outcome.message
    return outcome.exitCode
