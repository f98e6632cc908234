import DeviceFlags.Cli.Run

/-!
# The program

The outer layer.  It looks up the paths that a run may follow, takes the device
from the environment, and writes what the run leaves behind.
-/

namespace DeviceFlags.Program

/-- The words of the system for an error in reading a file. -/
def reasonOf : IO.Error → String
  | .permissionDenied _ code details => details ++ " (os error " ++ toString code ++ ")"
  | error => toString error

/-- What a path leads to on the disk.  A file that cannot be read is there all the
same; a directory that cannot be listed counts as absent. -/
def entryOnDisk? (path : Path) : IO (Option Entry) := do
  let place := System.mkFilePath [path.text]
  if ← place.isDir then
    try
      let names := (← place.readDir).toList.map fun found => FileName.text found.fileName
      return some (.directory names)
    catch _ => return none
  else if ← place.pathExists then
    try
      return some (.file (← IO.FS.readBinFile place))
    catch error => return some (.barred (reasonOf error))
  else
    return none

/-- The paths of the entries of a directory. -/
def entryPaths : Path × Entry → List Path
  | (path, .directory names) =>
      names.filterMap fun
        | .text name => some (path.join name)
        | .bytes _ => none
  | _ => []

/-- What some paths lead to on the disk. -/
def lookUp (paths : List Path) : IO (List (Path × Entry)) :=
  paths.filterMapM fun path => do
    return (← entryOnDisk? path).map fun entry => (path, entry)

/-- The surroundings of a run with some arguments. -/
def surroundingsFor (arguments : List String) : IO Cli.Surroundings := do
  let workingDirectory : Path := ⟨toString (← IO.currentDir)⟩
  let entries ← lookUp (Cli.pathsOfInterest workingDirectory arguments)
  let inner ← lookUp (entries.flatMap entryPaths)
  return {
    files := FileSystem.ofEntries (entries ++ inner)
    workingDirectory
    device := ← IO.getEnv Manifest.deviceVariable }

end DeviceFlags.Program

/-- Runs the program with the arguments of the command line. -/
def main (arguments : List String) : IO UInt32 := do
  let surroundings ← DeviceFlags.Program.surroundingsFor arguments
  let result := DeviceFlags.Cli.run surroundings arguments
  for record in result.events do
    IO.eprintln record.line
  IO.print result.value.stdout
  IO.eprint result.value.stderr
  return result.value.exitCode.toUInt32
