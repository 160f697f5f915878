import ScadManual.Disk.Basic
import ScadManual.Error
import ScadManual.Text.Blank

/-!
# Finding files by pattern

A pattern is followed component by component from the current directory or the root.  A component without
wildcards leads to one place; one with wildcards is compared with the names in a directory, in order; two
stars stand for a directory and everything below it, directories first.  Wildcards also match names that
start with a dot, but the directory itself and the one above only match a component that starts with one.
-/

namespace ScadManual.Glob

/-- A pattern in components. -/
structure Query where
  /-- Where the search starts. -/
  start : String
  components : List Pattern
  /-- Does the pattern end with a slash, so that only directories match? -/
  onlyDirectories : Bool

/-- The components of a text, without one that is empty at the end. -/
def pieces (s : String) : List String :=
  let all := Text.splitAt '/' s
  if all.getLast? = some "" then all.dropLast else all

/-- Reads a pattern.  The whole text is read first, then each component for itself. -/
def Query.parse (pattern : String) : Except Fault Query := do
  let _ ← Pattern.parse pattern
  let absolute := Path.isAbsolute pattern
  let rest := if absolute then (Text.afterStart? pattern "/").getD "" else pattern
  let components ← (pieces rest).mapM Pattern.parse
  return {
    start := if absolute then "/" else "."
    components := if rest.isEmpty then [⟨[]⟩] else components
    onlyDirectories := Disk.isDirPath pattern }

/-- A name in a directory, without the directory when that is the current one. -/
def child (dir name : String) : String :=
  if Path.same dir "." then name else Path.join dir name

/-- Is the text one of the two names for the directory itself and the one above? -/
def isDots (s : String) : Bool := s == "." || s == ".."

/-- The names for the directory itself and the one above that a component matches, the one above first. -/
def dots (p : Pattern) : List String :=
  if p.tokens.head? = some (.char '.') then ["..", "."].filter p.matchesName else []

/-- What components match below a path. -/
def follow (d : Disk) (onlyDirectories : Bool) (components : List Pattern) (path : String) :
    List String :=
  match components with
  | [] => if onlyDirectories && !d.isDirectory path then [] else [path]
  | p :: rest =>
    match p.literal? with
    | some name =>
      let next := child path name
      if (if isDots name then d.isDirectory path else d.exists? next) then
        follow d onlyDirectories rest next
      else []
    | none =>
      match d.stat path with
      | .ok (spot, .directory) =>
        if p.isRecursive then
          match h : rest.dropWhile Pattern.isRecursive with
          | [] =>
            ((d.below spot).filter (·.2)).map fun e => child path (String.intercalate "/" e.1)
          | q :: qs =>
            have : qs.length < rest.length + 1 := by
              have hle : (rest.dropWhile Pattern.isRecursive).length ≤ rest.length :=
                (List.dropWhile_sublist Pattern.isRecursive).length_le
              simp only [h, List.length_cons] at hle
              omega
            (d.below spot).flatMap fun e =>
              if q.matchesName (e.1.getLastD "") then
                follow d onlyDirectories qs (child path (String.intercalate "/" e.1))
              else []
        else
          (dots p).flatMap (fun name => follow d onlyDirectories rest (Path.join path name)) ++
            ((d.childNames spot).filter p.matchesName).flatMap fun name =>
              follow d onlyDirectories rest (child path name)
      | _ => []
termination_by components.length

/-- The paths that a pattern matches. -/
def Query.paths (q : Query) (d : Disk) : List String :=
  follow d q.onlyDirectories q.components q.start

/-- The paths without those that are the same as an earlier one. -/
def distinct (paths : List String) : List String :=
  paths.foldl (fun found p => if found.any (Path.same p) then found else found ++ [p]) []

/-- The paths that patterns match, in the order of the patterns, each path once. -/
def expand (d : Disk) (patterns : List String) : Except Error (List String) := do
  let patterns := (patterns.map Text.trim).filter (!·.isEmpty)
  let found ← patterns.mapM fun p =>
    match Query.parse p with
    | .ok q => .ok (q.paths d)
    | .error fault => .error (Error.badPattern p fault)
  return distinct found.flatten

end ScadManual.Glob
