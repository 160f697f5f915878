import ScadManual.CommandLine.Documentation
import ScadManual.CommandLine.Tutorials

/-!
# The program

The files below the working directory and the user's settings are read, the command works on them as a
value, and what it changed is written back.  The name under which the program is called decides between its
two commands.  No other program is started from here, so that a run that needs images ends with the message
that OpenSCAD is missing.
-/

namespace ScadManual.Main

/-- The entries of a file or directory and of everything below it. -/
partial def entriesOf (spot : Spot) (e : IO.FS.DirEntry) : IO (List (Spot × Entry)) := do
  let spot := spot ++ [e.fileName]
  if ← e.path.isDir then
    let inner ← (← e.path.readDir).toList.mapM (entriesOf spot)
    return (spot, .directory) :: inner.flatten
  else
    return [(spot, .file (.bytes (← IO.FS.readBinFile e.path)))]

/-- The directories that a place stands in. -/
def parents (spot : Spot) : List (Spot × Entry) :=
  (List.range spot.length).filterMap fun n =>
    if n = 0 then none else some (spot.take n, .directory)

/-- The disk as far as commands look at it: the working directory and the user's settings. -/
def loadDisk (userFile : String) : IO Disk := do
  let dir ← IO.currentDir
  let current := Disk.names dir.toString
  let below ← (← dir.readDir).toList.mapM (entriesOf current)
  let base := parents current ++ [(current, .directory)] ++ below.flatten
  let spot := Disk.names userFile
  if (base.lookup spot).isSome then return ⟨base, current⟩
  else
    match ← (IO.FS.readBinFile userFile).toBaseIO with
    | .ok data => return ⟨base ++ parents spot ++ [(spot, .file (.bytes data))], current⟩
    | .error _ => return ⟨base, current⟩

/-- Writes an entry that a command has made or changed. -/
def storeEntry (spot : Spot) : Entry → IO Unit
  | .directory => IO.FS.createDirAll (Disk.spotText spot)
  | .file (.bytes data) => IO.FS.writeBinFile (Disk.spotText spot) data
  | .file _ => return

/-- Writes what a command has changed, directories before what they hold. -/
def storeDisk (before after : Disk) : IO Unit := do
  let changed := after.entries.filter fun (spot, e) => before.get? spot ≠ some e
  for (spot, e) in changed.mergeSort (fun a b => a.1.length ≤ b.1.length) do
    storeEntry spot e
  for (spot, e) in before.entries do
    if (after.get? spot).isNone && e ≠ .directory then IO.FS.removeFile (Disk.spotText spot)

/-- The value of a variable, with its name. -/
def lookUp (name : String) : IO (Option (String × String)) := do
  return (← IO.getEnv name).map fun value => (name, value)

/-- The home directory and the variables that the user's settings mention. -/
def loadEnvironment : IO Environment := do
  let home ← lookUp "HOME"
  let env : Environment := ⟨Dict.ofList home.toList⟩
  match ← (IO.FS.readFile (Settings.userFile env)).toBaseIO with
  | .error _ => return env
  | .ok text =>
    let found ← ((Environment.mentioned text).filter (!·.isEmpty)).mapM lookUp
    return ⟨env.values.insertAll (found.filterMap id)⟩

/-- The command of a program name. -/
def commandOf (name : Option String) : CommandLine.Host → List String → CommandLine.Ended :=
  if name = some CommandLine.Tutorials.command.name then CommandLine.Tutorials.run
  else CommandLine.Documentation.run

end ScadManual.Main

open ScadManual in
/-- Runs the command that the program is called as. -/
def main (args : List String) : IO UInt32 := do
  let env ← Main.loadEnvironment
  let disk ← Main.loadDisk (Settings.userFile env)
  let name := (← IO.appPath).fileStem
  let ended := Main.commandOf name ⟨env, disk, none⟩ args
  Main.storeDisk disk ended.disk
  IO.print ended.stdout
  IO.eprint ended.stderr
  return ended.status.toUInt32
