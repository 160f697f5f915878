import ScadManual.Text.Search

/-!
# Paths

A path is the text a user or a program wrote, with slashes between its components, and is kept as it is
written.  Its components leave out what means nothing: repeated and final slashes, and a `.` that is not the
first component.  Two paths are the same when their components are.
-/

namespace ScadManual.Path

/-- A component of a path. -/
inductive Component where
  | root
  /-- A `.` in front of a relative path. -/
  | current
  | parent
  | name (s : String)
deriving DecidableEq, Repr

/-- Does the path start at the root? -/
def isAbsolute (path : String) : Bool :=
  Text.startsWith path "/"

/-- The component that a piece between slashes stands for, if any; `first` tells the first piece. -/
def pieceComponent? (first : Bool) (piece : String) : Option Component :=
  if piece.isEmpty then none
  else if piece = "." then if first then some .current else none
  else if piece = ".." then some .parent
  else some (.name piece)

/-- The components of the pieces between slashes. -/
def componentsOf : List String → List Component
  | [] => []
  | piece :: rest =>
    (pieceComponent? true piece).toList ++ rest.filterMap (pieceComponent? false)

/-- The components of a path. -/
def components (path : String) : List Component :=
  (if isAbsolute path then [.root] else []) ++ componentsOf (Text.splitAt '/' path)

/-- Are the paths the same, component by component? -/
def same (a b : String) : Bool :=
  components a == components b

/-- The path `b` seen from the directory `a`; an absolute `b` stays what it is. -/
def join (a b : String) : String :=
  if isAbsolute b || a.isEmpty then b
  else if a.toList.getLast? = some '/' then a ++ b
  else a ++ "/" ++ b

/-- The path `b` put behind `a`, where one slash in front of `b` does not count. -/
def append (a b : String) : String :=
  let tail := (Text.afterStart? b "/").getD b
  if a.isEmpty || a.toList.getLast? = some '/' then a ++ tail else a ++ "/" ++ tail

/-- The name of the file, when the last component is a name. -/
def fileName? (path : String) : Option String :=
  match (components path).getLast? with
  | some (.name s) => some s
  | _ => none

/-- A file name cut at its last dot.  A dot in front of the name cuts nothing. -/
def splitName (name : String) : String × Option String :=
  match Text.cutChars? '.' name.toList.reverse with
  | some (after, before) =>
    if before.isEmpty then (name, none)
    else (String.ofList before.reverse, some (String.ofList after.reverse))
  | none => (name, none)

/-- The file name without its extension. -/
def stem? (path : String) : Option String :=
  (fileName? path).map fun name => (splitName name).1

/-- The extension of the file name. -/
def extension? (path : String) : Option String :=
  (fileName? path).bind fun name => (splitName name).2

/-- The pieces up to the last one that stands for a component. -/
def trimPieces (pieces : List String) : List String :=
  match pieces with
  | [] => []
  | piece :: rest =>
    let rest := (rest.reverse.dropWhile fun p => (pieceComponent? false p).isNone).reverse
    if rest.isEmpty && (pieceComponent? true piece).isNone then [] else piece :: rest

/-- The directory that holds the path's last component; none for an empty path and for the root. -/
def parent? (path : String) : Option String :=
  match (components path).getLast? with
  | none => none
  | some .root => none
  | some _ =>
    let pieces := trimPieces (trimPieces (Text.splitAt '/' path)).dropLast
    if pieces.isEmpty then some (if isAbsolute path then "/" else "")
    else some (String.intercalate "/" pieces)

end ScadManual.Path
