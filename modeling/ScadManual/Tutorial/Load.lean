import ScadManual.Disk.Basic
import ScadManual.Tutorial
import ScadManual.Yaml.Meaning

/-!
# The project's settings for tutorials

A YAML file with some of the settings and with the pages to convert when none are named.  Names it should
not have are passed over, but a name must not come twice.
-/

namespace ScadManual.Tutorial

/-- The file in a project's directory that configures its tutorials. -/
def rcFile : String := ".openscad_mdimggen_rc"

/-- The patterns of the pages to convert. -/
inductive Sources where
  | none
  | one (pattern : String)
  | many (patterns : List String)
deriving DecidableEq, Repr

/-- The patterns, in order. -/
def Sources.patterns : Sources → List String
  | .none => []
  | .one pattern => [pattern]
  | .many patterns => patterns

/-- What a project says about its tutorials. -/
structure Project where
  settings : Settings
  sources : Sources
deriving DecidableEq, Repr

namespace Project

/-- A project that says nothing. -/
def default : Project := ⟨Settings.default, .none⟩

/-- The patterns that a node gives. -/
def sources? (n : Yaml.Node) : Option Sources :=
  n.isAbsent?.bind fun absent =>
    if absent then some .none
    else (n.onlyText?.map Sources.one) <|> (n.onlyTexts?.map Sources.many)

/-- Changes a project by a named value, when the name is one it knows. -/
def setField? (p : Project) (name : String) (v : Yaml.Node) : Option Project :=
  if name = "docs_dir" then
    v.text?.map fun dir => { p with settings := { p.settings with docsDir := dir } }
  else if name = "file_prefix" then
    v.text?.map fun start => { p with settings := { p.settings with pageStart := start } }
  else if name = "image_root" then
    v.text?.map fun dir => { p with settings := { p.settings with imageRoot := dir } }
  else if name = "png_animations" then
    v.truth?.map fun b => { p with settings := { p.settings with pngAnimation := b } }
  else if name = "source_files" then (sources? v).map fun sources => { p with sources }
  else some p

/-- The names that a project knows, each of which may come once. -/
def names : List String := ["docs_dir", "file_prefix", "image_root", "png_animations", "source_files"]

/-- Does a known name come twice? -/
def hasRepeated (keys : List String) : Bool :=
  names.any fun name => keys.count name > 1

/-- The project of a mapping. -/
def ofEntries? (entries : List (Yaml.Node × Yaml.Node)) : Option Project :=
  let named := entries.mapM fun ((k, v) : Yaml.Node × Yaml.Node) => k.text?.map fun name => (name, v)
  named.bind fun named =>
    if hasRepeated (named.map (·.1)) then none
    else named.foldlM (fun p (name, v) => p.setField? name v) default

/-- The project of a document. -/
def ofNode? (n : Yaml.Node) : Option Project :=
  n.isAbsent?.bind fun absent =>
    if absent then some default
    else
      match n with
      | .mapping _ entries => ofEntries? entries
      | _ => none

/-- The project of a text, which may be empty. -/
def parse? (text : String) : Option Project :=
  (Yaml.parse? text).bind fun doc => doc.elim (some default) ofNode?

/-- Reads a project from a file; one that is not there says nothing. -/
def load (d : Disk) (path : String) : Except Error Project :=
  if !d.exists? path then .ok default
  else
    match d.readText path with
    | .error e => .error (.configUnreadable path e)
    | .ok text =>
      match parse? text with
      | none => .error (.rcMalformed path)
      | some p => .ok p

end Project

end ScadManual.Tutorial
