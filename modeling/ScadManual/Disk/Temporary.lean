import ScadManual.Disk.Basic

/-!
# Temporary files

A temporary file has a name that nothing in its directory has.  Its path is absolute, so that it stays right
when the current directory changes.
-/

namespace ScadManual.Disk

/-- A number in six digits. -/
def sixDigits (n : Nat) : String :=
  let digits := (toString n).toList
  String.ofList (List.replicate (6 - digits.length) '0' ++ digits)

/-- The first of the numbered names that is free at a place and none of the reserved ones; with more names
than these one is. -/
def freshName (d : Disk) (spot : Spot) (start ending : String) (reserved : List String) : String :=
  let name (n : Nat) := start ++ sixDigits n ++ ending
  name <| ((List.range (d.entries.length + reserved.length + 1)).find? fun n =>
    (d.get? (spot ++ [name n])).isNone && !reserved.contains (name n)).getD 0

/-- A directory as an absolute path. -/
def absolute (d : Disk) (dir : String) : String :=
  if Path.isAbsolute dir then dir else Path.join d.currentText dir

/-- A temporary file: where it is and what it is called. -/
structure Temporary where
  spot : Spot
  path : String

/-- Makes an empty temporary file in a directory, with none of the reserved names. -/
def makeTemporary (d : Disk) (dir start ending : String) (reserved : List String) :
    Except DiskError (Temporary × Disk) :=
  let base := d.absolute dir
  let spot := (d.locate base).toOption.getD []
  let path := Path.join base (d.freshName spot start ending reserved)
  match d.locate path with
  | .error e => .error (.temporary e path)
  | .ok spot =>
    match d.write path .empty with
    | .error e => .error (.temporary e path)
    | .ok d => .ok (⟨spot, path⟩, d)

/-- Makes an empty temporary directory in a directory. -/
def makeTemporaryDirectory (d : Disk) (dir start : String) : Except DiskError (Temporary × Disk) :=
  let base := d.absolute dir
  let spot := (d.locate base).toOption.getD []
  let path := Path.join base (d.freshName spot start "" [])
  match d.locate path with
  | .error e => .error (.temporary e path)
  | .ok spot =>
    match d.makeDirectory path with
    | .error e => .error (.temporary e path)
    | .ok d => .ok (⟨spot, path⟩, d)

end ScadManual.Disk
