import ScadManual.Disk.Basic
import ScadManual.Environment
import ScadManual.Settings
import ScadManual.Toml.Document

/-!
# The user's settings

A TOML file with some of the settings; those it does not name keep their defaults, and names it should not
have are passed over.  A value of the wrong kind makes the whole file malformed.
-/

namespace ScadManual

namespace Settings

/-- Changes a set of pages by a named value, when the name is that of a kind of pages. -/
def setPages? (p : PageSet) (name : String) (v : Toml.Value) : Option PageSet :=
  if name = "files" then v.boolean?.map fun b => { p with files := b }
  else if name = "toc" then v.boolean?.map fun b => { p with contents := b }
  else if name = "index" then v.boolean?.map fun b => { p with index := b }
  else if name = "topics" then v.boolean?.map fun b => { p with topics := b }
  else if name = "cheat" then v.boolean?.map fun b => { p with cheatSheet := b }
  else if name = "sidebar" then v.boolean?.map fun b => { p with sidebar := b }
  else some p

/-- The names of the kinds of pages, in the order in which a list gives them. -/
def pageNames : List String := ["files", "toc", "index", "topics", "cheat", "sidebar"]

/-- The set of pages that a value describes: a table by names, a list by places.  A moment is a table of
which no name is known. -/
def pages? : Toml.Value → Option PageSet
  | .table _ entries => entries.foldlM (fun p (name, v) => setPages? p name v) PageSet.none
  | .array items => (pageNames.zip items).foldlM (fun p (name, v) => setPages? p name v) PageSet.none
  | .moment _ => some PageSet.none
  | _ => none

/-- Changes settings by a named value, when the name is that of a setting. -/
def setField? (s : Settings) (name : String) (v : Toml.Value) : Option Settings :=
  let flag (set : Bool → Settings) : Option Settings := v.boolean?.map set
  if name = "docs_dir" then v.string?.map fun dir => { s with docsDir := dir }
  else if name = "project_name" then v.string?.map fun p => { s with projectName := some p }
  else if name = "target_profile" then v.string?.map fun p => { s with targetProfile := p }
  else if name = "strict" then flag fun b => { s with strict := b }
  else if name = "quiet" then flag fun b => { s with quiet := b }
  else if name = "force" then flag fun b => { s with force := b }
  else if name = "test_only" then flag fun b => { s with testOnly := b }
  else if name = "gen_images" then flag fun b => { s with makeImages := b }
  else if name = "png_animation" then flag fun b => { s with pngAnimation := b }
  else if name = "report" then flag fun b => { s with report := b }
  else if name = "generate" then (pages? v).map fun p => { s with pages := p }
  else some s

/-- The settings of a document. -/
def ofToml? (entries : Toml.Entries) : Option Settings :=
  entries.foldlM (fun s (name, v) => s.setField? name v) default

/-- Reads settings from a file; none when there is no such file. -/
def load (env : Environment) (d : Disk) (path : String) : Except Error (Option Settings) :=
  if !d.exists? path then .ok none
  else
    match d.readText path with
    | .error e => .error (.configUnreadable path e)
    | .ok text =>
      match (Toml.parse? text).bind ofToml? with
      | none => .error (.configMalformed path)
      | some s => .ok (some (s.setDocsDir (env.expand s.docsDir)))

/-- Where the user's settings are. -/
def userFile (env : Environment) : String :=
  Path.join (env.expandHome "~/.config/scad-docsgen".toList |> String.ofList) "config.toml"

/-- The user's settings, or the defaults when there are none. -/
def loadUser (env : Environment) (d : Disk) : Except Error Settings :=
  (load env d (userFile env)).map (·.getD default)

end Settings

end ScadManual
