import ScadManual.Disk.Content
import ScadManual.Disk.Error
import ScadManual.Path
import ScadManual.Text.Sort

/-!
# Disks

A tree of directories and files and a directory in it from which relative paths are read.  Everything is
seen through `get?`, which tells what is at a place; a place is the list of names from the root to it.
Walking along a path asks of every step that it starts in a directory, and the first step that does not
decides the error.
-/

namespace ScadManual

/-- What is at a place. -/
inductive Entry where
  | directory
  | file (content : Content)
deriving DecidableEq

/-- The names from the root to a file or directory. -/
abbrev Spot := List String

/-- A tree of files. -/
structure Disk where
  /-- Everything but the root, each place once. -/
  entries : List (Spot × Entry)
  /-- The directory from which relative paths are read. -/
  current : Spot

namespace Disk

/-! ## Places -/

/-- What is at a place; the root is always a directory. -/
def get? (d : Disk) (spot : Spot) : Option Entry :=
  if spot.isEmpty then some .directory else d.entries.lookup spot

/-- The disk with an entry at a place. -/
def set (d : Disk) (spot : Spot) (entry : Entry) : Disk :=
  { d with entries := (spot, entry) :: d.entries.filter (·.1 != spot) }

/-- The disk with nothing at a place. -/
def erase (d : Disk) (spot : Spot) : Disk :=
  { d with entries := d.entries.filter (·.1 != spot) }

/-- The disk with nothing at a place and below it. -/
def eraseTree (d : Disk) (spot : Spot) : Disk :=
  { d with entries := d.entries.filter fun e => !spot.isPrefixOf e.1 }

/-- The text of a place. -/
def spotText (spot : Spot) : String :=
  "/" ++ String.intercalate "/" spot

/-- The text of the current directory. -/
def currentText (d : Disk) : String :=
  spotText d.current

/-! ## Paths -/

/-- The longest name, in bytes. -/
def maxName : Nat := 255

/-- Walks along names from a place.  The place it comes to may be empty. -/
def walk (d : Disk) (spot : Spot) : List String → Except DiskError Spot
  | [] => .ok spot
  | name :: names =>
    match d.get? spot with
    | none => .error .notFound
    | some (.file _) => .error .notDirectory
    | some .directory =>
      if name = "." then d.walk spot names
      else if name = ".." then d.walk spot.dropLast names
      else if name.utf8ByteSize > maxName then .error .nameTooLong
      else d.walk (spot ++ [name]) names

/-- The names along a path. -/
def names (path : String) : List String :=
  (Text.splitAt '/' path).filter (!·.isEmpty)

/-- Does the path end with a slash, so that it can only be a directory? -/
def isDirPath (path : String) : Bool :=
  path.toList.getLast? == some '/'

/-- The place that a path leads to. -/
def locate (d : Disk) (path : String) : Except DiskError Spot :=
  if path.isEmpty then .error .notFound
  else if path.toList.any (·.toNat = 0) then .error .nulByte
  else d.walk (if Path.isAbsolute path then [] else d.current) (names path)

/-- What a path leads to. -/
def stat (d : Disk) (path : String) : Except DiskError (Spot × Entry) :=
  match d.locate path with
  | .error e => .error e
  | .ok spot =>
    match d.get? spot with
    | none => .error .notFound
    | some .directory => .ok (spot, .directory)
    | some (.file c) => if isDirPath path then .error .notDirectory else .ok (spot, .file c)

/-- Does the path lead to anything? -/
def exists? (d : Disk) (path : String) : Bool :=
  (d.stat path).toOption.isSome

/-- Does the path lead to a directory? -/
def isDirectory (d : Disk) (path : String) : Bool :=
  match d.stat path with
  | .ok (_, .directory) => true
  | _ => false

/-- Does the path lead to a file? -/
def isFile (d : Disk) (path : String) : Bool :=
  match d.stat path with
  | .ok (_, .file _) => true
  | _ => false

/-! ## Reading -/

/-- The content of a file. -/
def read (d : Disk) (path : String) : Except DiskError Content :=
  match d.stat path with
  | .error e => .error e
  | .ok (_, .directory) => .error .isDirectory
  | .ok (_, .file c) => .ok c

/-- The text of a file. -/
def readText (d : Disk) (path : String) : Except DiskError String :=
  match d.read path with
  | .error e => .error e
  | .ok c =>
    match c.text? with
    | some s => .ok s
    | none => .error .notText

/-- The names of what is right below a place, in order. -/
def childNames (d : Disk) (spot : Spot) : List String :=
  Text.sortBy id <| d.entries.filterMap fun e =>
    match e.1.getLast? with
    | some name => if e.1.dropLast = spot then some name else none
    | none => none

/-- Everything below a place, directories before what they hold and otherwise by name: the names from the
place on, and whether it is a directory. -/
def below (d : Disk) (spot : Spot) : List (List String × Bool) :=
  let found := d.entries.filterMap fun e =>
    match spot.isPrefixOf? e.1 with
    | some (name :: names) => some (name :: names, decide (e.2 = .directory))
    | _ => none
  found.mergeSort fun a b => !decide (b.1 < a.1)

/-! ## Writing -/

/-- Writes a file, in place of the one that is there. -/
def write (d : Disk) (path : String) (content : Content) : Except DiskError Disk :=
  match d.locate path with
  | .error e => .error e
  | .ok spot =>
    if isDirPath path then .error .isDirectory
    else
      match d.get? spot with
      | some .directory => .error .isDirectory
      | _ => .ok (d.set spot (.file content))

/-- Makes a directory. -/
def makeDirectory (d : Disk) (path : String) : Except DiskError Disk :=
  match d.locate path with
  | .error e => .error e
  | .ok spot =>
    match d.get? spot with
    | some _ => .error .alreadyExists
    | none => .ok (d.set spot .directory)

/-- Makes a directory and those it stands in, of which at most `depth` are missing. -/
def makeDirectoriesTo (d : Disk) : Nat → String → Except DiskError Disk
  | 0, _ => .error .notFound
  | depth + 1, path =>
    if path.isEmpty then .ok d
    else
      match d.makeDirectory path with
      | .ok d => .ok d
      | .error .notFound =>
        match Path.parent? path with
        | none => .error .notFound
        | some parent =>
          match d.makeDirectoriesTo depth parent with
          | .error e => .error e
          | .ok d =>
            match d.makeDirectory path with
            | .ok d => .ok d
            | .error e => if d.isDirectory path then .ok d else .error e
      | .error e => if d.isDirectory path then .ok d else .error e

/-- Makes a directory and those it stands in; a directory that is there stays. -/
def makeDirectories (d : Disk) (path : String) : Except DiskError Disk :=
  d.makeDirectoriesTo ((Path.components path).length + 1) path

/-- Writes lines into a file, making the directories it stands in. -/
def writeLines (d : Disk) (path : String) (lines : List String) : Except DiskError Disk := do
  let d ←
    match Path.parent? path with
    | some parent => d.makeDirectories parent
    | none => .ok d
  d.write path (.text (String.join (lines.map (· ++ "\n"))))

/-- Moves the file at a place to where a path leads, in place of a file that is there. -/
def move (d : Disk) (source : Spot) (path : String) : Except DiskError Disk :=
  match d.get? source with
  | some (.file content) =>
    match d.locate path with
    | .error e => .error e
    | .ok spot =>
      match d.get? spot with
      | some .directory => .error .isDirectory
      | _ =>
        if isDirPath path then .error .notDirectory
        else .ok ((d.erase source).set spot (.file content))
  | _ => .error .notFound

end Disk

end ScadManual
