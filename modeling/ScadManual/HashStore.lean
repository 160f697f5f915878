import ScadManual.Dict
import ScadManual.Disk.Temporary
import ScadManual.Log
import ScadManual.Sha256
import ScadManual.Text.Lines

/-!
# The hash store

The digest of every source as it was when its images were last made, kept in a file with a line
`path|digest` for each.  A source whose digest differs from the one that was stored is stale.
-/

namespace ScadManual

/-- Digests by source path: those that were stored and those to be stored next. -/
structure HashStore where
  path : String
  previous : Dict
  current : Dict

namespace HashStore

/-- The name of the store in the directory of pages. -/
def fileName : String := ".source_hashes"

/-- The record of a line, or none when it is malformed. -/
def record? (line : String) : Option (String × String) :=
  match Text.splitAt '|' line with
  | [path, digest] => some (path, digest)
  | _ => none

/-- The records of lines, the first of which has the number `n`; or the number of a malformed one.  Empty
lines do not count. -/
def records (n : Nat) : List String → Except Nat (List (String × String))
  | [] => .ok []
  | line :: lines =>
    if line.isEmpty then records (n + 1) lines
    else
      match record? line with
      | none => .error n
      | some r => do
        let rest ← records (n + 1) lines
        return r :: rest

/-- The table in a file.  A missing file is an empty table. -/
def readTable (d : Disk) (path : String) : Except Error Dict :=
  match d.readText path with
  | .error .notFound => .ok Dict.empty
  | .error e => .error (.disk e)
  | .ok text =>
    match records 1 (Text.lines text) with
    | .ok rs => .ok (Dict.ofList rs)
    | .error n => .error (.corruptStore path n)

/-- Loads a store.  One that cannot be read is empty, and that is found. -/
def load (d : Disk) (path : String) : HashStore × List Finding :=
  match readTable d path with
  | .ok table => (⟨path, table, table⟩, [])
  | .error e => (⟨path, Dict.empty, Dict.empty⟩, [⟨⟨path, 0⟩, e⟩])

/-- The digest of a file; one that cannot be read counts as empty. -/
def digestOf (d : Disk) (path : String) : String :=
  match d.read path with
  | .ok content => Sha256.hex content.fingerprint
  | .error _ => Sha256.hex ByteArray.empty

/-- Notes the digest of a source and tells whether it differs from the stored one. -/
def check (s : HashStore) (d : Disk) (source : String) : Bool × HashStore :=
  let digest := digestOf d source
  (s.previous.get? source != some digest, { s with current := s.current.insert source digest })

/-- Forgets a source, so that it is stale the next time. -/
def invalidate (s : HashStore) (source : String) : HashStore :=
  { s with current := s.current.erase source }

/-- Forgets a source if an error was logged for it. -/
def forgetBad (s : HashStore) (log : Log) (source : String) : HashStore :=
  if log.fileHasErrors source then s.invalidate source else s

/-- The digest that is noted for a source. -/
def get? (s : HashStore) (source : String) : Option String :=
  s.current.get? source

/-- The text of a table, in the order of the paths. -/
def render (table : Dict) : String :=
  String.join ((Text.sortBy (·.1) table.entries).map fun (path, digest) => path ++ "|" ++ digest ++ "\n")

/-- The directory that a file is written to. -/
def directoryOf (path : String) : String :=
  match Path.parent? path with
  | some dir => if dir.isEmpty then "." else dir
  | none => "."

/-- Writes the store, in one step. -/
def commit (s : HashStore) (d : Disk) : Except Error Disk := do
  let (temporary, d) ← (d.makeTemporary (directoryOf s.path) ".tmp" "" []).mapError Error.disk
  let d ← (d.write temporary.path (.text (render s.current))).mapError Error.disk
  (d.move temporary.spot s.path).mapError Error.disk

end HashStore

end ScadManual
