import ScadManual.Manual.Image
import ScadManual.Manual.Item
import ScadManual.Table

/-!
# Building the document

What each block of a source does.  A block is told by its title; titles with a rule in the registry are
blocks of the shape that the rule says.  Checks come before changes, but for a list of aliases, which declares
those of its names that are free before it is known whether all are.
-/

namespace ScadManual.Manual

/-- Opens a file. -/
def openFile (b : Block) : Building Unit := do
  match ← Work.read (·.place.file?) with
  | some _ => refuse b.title .fileRepeated
  | none => do
    let file ← append (b.node (.file FileInfo.empty) none)
    moveTo (.file file)

/-- Opens a section. -/
def openSection (b : Block) : Building Unit := do
  let file ← requireFile b.title
  let sect ← append (b.node .section (some file))
  moveTo (.section file sect)

/-- Opens a subsection of the open section. -/
def openSubsection (b : Block) : Building Unit := do
  match ← Work.read fun m => (m.place.file?, m.place.section?) with
  | (some file, some sect) =>
    if b.subtitle.isEmpty then refuse b.title .subtitleMissing
    else do
      let sub ← append (b.node .subsection (some sect))
      moveTo (.subsection file sect sub)
  | _ => refuse b.title .sectionMissing

/-- Adds lines in front of the scripts of the file, and shows them. -/
def addIncludes (b : Block) : Building Unit := do
  let file ← requireFile b.title
  changeFile file fun info => { info with includes := info.includes ++ b.body }
  let _ ← append (b.node .includes (some file))

/-- Adds lines in front of the scripts of the file. -/
def addCommonCode (b : Block) : Building Unit := do
  let file ← requireFile b.title
  changeFile file fun info => { info with common := info.common ++ b.body }

/-- The footnotes that a subtitle lists: marks and notes divided by `=`, with semicolons between. -/
def footnotes (subtitle : String) (origin : Origin) : List Footnote :=
  (Text.splitAt ';' subtitle).map fun part =>
    let (mark, note) := (Text.cut? '=' part).getD (part, "")
    ⟨Text.trim mark, Text.trim note, origin⟩

/-- Changes what is known of the open file by a block that needs a subtitle. -/
def describeFile (b : Block) (change : FileInfo → FileInfo) : Building Unit :=
  if b.subtitle.isEmpty then refuse b.title .subtitleMissing
  else do
    let file ← requireFile b.title
    changeFile file change

/-! ## Blocks with a rule -/

/-- What the shape of a rule makes of a block: the kind of its node, its subtitle and its body.  Text takes
the subtitle as its first line. -/
def shaped (shape : Shape) (b : Block) : Except Error (Kind × String × List String) :=
  let lines := if b.subtitle.isEmpty then b.body else b.subtitle :: b.body
  match shape with
  | .label => do
    requireNoBody b.title b.body
    return (.label, b.subtitle, b.body)
  | .text => .ok (.text, "", lines)
  | .headerless => .ok (.headerless, "", lines)
  | .bulletList => .ok (.bulletList, b.subtitle, b.body)
  | .numberedList => .ok (.numberedList, b.subtitle, b.body)
  | .table headerSets =>
    match Table.parse? headerSets b.body with
    | some info => .ok (.table info, b.subtitle, b.body)
    | none => refuse b.title .tooManyTables
  | .generic | .figure | .example => .ok (.generic, b.subtitle, b.body)

/-- Adds the node of a block with a rule below `parent`, and then does what else the rule asks for. -/
def addShaped (rule : Rule) (parent : NodeId) (b : Block) : Building Unit := do
  let (kind, subtitle, body) ← shaped rule.shape b
  let _ ← append ⟨kind, b.title, subtitle, body, b.origin, 0, some parent⟩
  match rule.effect with
  | some effect => applyEffect effect b.title subtitle
  | none => return ()

/-- Takes a block that needs an open item, when there is one. -/
def withItem (title : String) (take : NodeId → Building Unit) : Building Unit := do
  match ← openItem? title with
  | some item => take item
  | none => return ()

/-- Takes a block by the shape of its rule. -/
def addByShape (rule : Rule) (b : Block) : Building Unit := do
  match ← Work.read (·.place.parent?) with
  | none => refuse b.title .fileMissing
  | some parent =>
    match rule.shape with
    | .figure => addImages .figure b.title false b
    | .example => withItem b.title fun _ => addImages .example b.title false b
    | _ => addShaped rule parent b

/-- Takes a block that has a rule. -/
def addRuled (rule : Rule) (b : Block) : Building Unit :=
  match rule.demand with
  | .item => withItem b.title fun _ => addByShape rule b
  | .anywhere => addByShape rule b

/-! ## Blocks by title -/

/-- Defines a rule for the rest of the source. -/
def defineRule (b : Block) : Building Unit := do
  let rules ← (← Work.read fun m => m.rules.define b.subtitle b.metadata)
  Work.update fun m => { m with rules }

/-- Takes a block whose title is neither fixed nor that of a directive. -/
def addTitled (b : Block) : Building Unit := do
  match ← Work.read (·.rules.get? b.title) with
  | some rule => addRuled rule b
  | none =>
    if itemTitles.contains b.title then declareItem b
    else
      match Label.ofTitle? b.title with
      | some label => withItem b.title fun item => labelItem item label b
      | none => refuse b.title .unrecognized

/-- Adds the figures of a block. -/
def addFigures (each : Bool) (b : Block) : Building Unit := do
  let _ ← requireFile b.title
  addImages .figure "Figure" each b

/-- Adds the examples of a block. -/
def addExamples (each : Bool) (b : Block) : Building Unit :=
  withItem b.title fun _ => addImages .example "Example" each b

/-- Takes a block inside a file. -/
def addInside (b : Block) : Building Unit :=
  match b.title with
  | "Section" => openSection b
  | "Subsection" => openSubsection b
  | "Includes" => addIncludes b
  | "CommonCode" => addCommonCode b
  | "FileSummary" => describeFile b fun info => { info with summary := Text.trim b.subtitle }
  | "FileGroup" => describeFile b fun info => { info with group := Text.trim b.subtitle }
  | "FileFootnotes" => describeFile b fun info => { info with footnotes := footnotes b.subtitle b.origin }
  | "Figure" => addFigures false b
  | "Figures" => addFigures true b
  | "Example" => addExamples false b
  | "Examples" => addExamples true b
  | _ => addTitled b

/-- Takes a block of a source. -/
def addBlock (b : Block) : Building Unit :=
  match b.title with
  | "DefineHeader" => defineRule b
  | "File" | "LibFile" => openFile b
  | title => do
    if ← Work.read fun m => m.place.file?.isNone && m.settings.strict then refuse title .fileMissing
    else addInside b

end ScadManual.Manual
