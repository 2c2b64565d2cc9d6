import MetricFacade.Command.Program

/-!
# The command line

Takes a picture of the files that the arguments concern, runs the program on it, and brings
the files to the state that the program leaves. No package manager is asked, so a manifest and a
starter manifest have to be named.
-/
namespace MetricFacade.Command

open File

/-- What stands at a path whose directory is there. -/
def look (path : String) : IO (Option Entry) := do
  try
    let bytes ← IO.FS.readBinFile path
    match String.fromUTF8? bytes with
    | some content => return some (.text content)
    | none => return some .binary
  catch
    | .noFileOrDirectory .. => return none
    | .inappropriateType .. => return some .directory
    | _ => return some .binary

/-- The tree with what stands at the place, if it could stand there. -/
def picture (files : Files) (place : Place) : IO Files := do
  if (files.get? place).isSome then return files
  else if files.get? place.dropLast ≠ some .directory then return files
  else
    match ← look (pathOf place) with
    | some entry => return files.put place entry
    | none => return files

/-- What the arguments concern. -/
def concerned (arguments : List String) : List Place :=
  match Invocation.ofArguments arguments with
  | .ok i => (i.task.paths noPackageManager).flatMap fun path => waypoints (origin path) (parts path)
  | .error _ => []

/-- Brings the file system from one state to another. -/
def bring (before after : Files) : IO Unit := do
  for (place, entry) in after.entries do
    if before.get? place ≠ some entry then
      match entry with
      | .directory => IO.FS.createDir (pathOf place)
      | .text content => IO.FS.writeFile (pathOf place) content
      | .binary => pure ()

end MetricFacade.Command

open MetricFacade Command in
def main (arguments : List String) : IO UInt32 := do
  let files ← (concerned arguments).foldlM picture {}
  let stderr ← IO.getStderr
  let ending := program (← stderr.isTty) files arguments
  bring files ending.files
  (← IO.getStdout).putStr ending.stdout
  stderr.putStr ending.stderr
  return ending.status.toUInt32
