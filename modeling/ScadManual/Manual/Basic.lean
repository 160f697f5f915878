import ScadManual.Manual.Place
import ScadManual.References
import ScadManual.Registry
import ScadManual.Settings
import ScadManual.Source
import ScadManual.Work

/-!
# The manual

All that reading sources accumulates: the document and the names of its items, the rules for blocks, and
what the project's configuration said.  Rules defined in the configuration hold for every source; rules that
a source defines hold for that source only.
-/

namespace ScadManual

/-- What has been read so far. -/
structure Manual where
  settings : Settings
  /-- Were the kinds of pages chosen before any configuration was read? -/
  pagesChosen : Bool
  library : Library
  /-- Rules that hold for every source. -/
  baseRules : Registry
  /-- Rules that hold for the source being read. -/
  rules : Registry
  /-- Tags that items may carry, with their explanations. -/
  tags : Dict
  ignoredPatterns : List String
  ignoredFiles : List String
  /-- Subtitles of the files that come first, in order. -/
  priorityFiles : List String
  place : Place

/-- Building a manual: steps that change it and may stop with an error. -/
abbrev Building (α : Type) := Work Manual α

/-- What a block led to: the manual after it, and an error if there was one. -/
structure Outcome where
  manual : Manual
  error : Option Error

/-- The node of a block. -/
def Block.node (b : Block) (kind : Kind) (parent : Option NodeId) : Node :=
  ⟨kind, b.title, b.subtitle, b.body, b.origin, 0, parent⟩

namespace Manual

/-- The document. -/
def document (m : Manual) : Document := m.library.document

/-- The names of the items. -/
def references (m : Manual) : References := m.library.references

/-- Nothing read, with the rules that are built in. -/
def blank (settings : Settings) : Manual :=
  { settings
    pagesChosen := settings.pages.any
    library := ⟨Document.empty, References.empty⟩
    baseRules := Registry.builtin
    rules := Registry.empty
    tags := Dict.empty
    ignoredPatterns := []
    ignoredFiles := []
    priorityFiles := []
    place := .outside }

/-- The manual with one more node. -/
def addNode (m : Manual) (n : Node) : Manual :=
  { m with library := { m.library with document := m.document.add n } }

/-- The manual with a node changed, which stays where it stands. -/
def modifyNode (m : Manual) (id : NodeId) (f : Node → Node) (hf : ∀ n, (f n).parent = n.parent) : Manual :=
  { m with library := { m.library with document := m.document.modify id f hf } }

/-- The manual with other knowledge of a file. -/
def modifyFile (m : Manual) (id : NodeId) (f : FileInfo → FileInfo) : Manual :=
  m.modifyNode id (·.withFile f) (·.parent_withFile f)

/-- The manual with other knowledge of an item. -/
def modifyItem (m : Manual) (id : NodeId) (f : ItemInfo → ItemInfo) : Manual :=
  m.modifyNode id (·.withItem f) (·.parent_withItem f)

/-- The manual when one more image of a kind is made below a node. -/
def countImage (m : Manual) (id : NodeId) (kind : ImageKind) : Manual :=
  m.modifyNode id (·.counting kind) (·.parent_counting kind)

/-- What building leads to.  The manual is the one that was reached, even when an error ended it. -/
def build (m : Manual) (x : Building Unit) : Outcome :=
  match x.exec m with
  | (.ok _, m) => ⟨m, none⟩
  | (.error e, m) => ⟨m, some e⟩

/-! ## Demands -/

/-- The error of a block of the title. -/
def refuse {α : Type} (title : String) (misuse : Misuse) : Except Error α :=
  .error (.structural title misuse)

/-- The open file; it is an error when there is none. -/
def requireFile (title : String) : Building NodeId := do
  match ← Work.read (·.place.file?) with
  | some file => return file
  | none => refuse title .fileMissing

/-- The open item.  When there is none the block is left out, which is an error for strict settings. -/
def openItem? (title : String) : Building (Option NodeId) := do
  match ← Work.read (·.place.item?) with
  | some item => return some item
  | none => if ← Work.read (·.settings.strict) then refuse title .itemMissing else return none

/-- It is an error when the block has a body. -/
def requireNoBody (title : String) (body : List String) : Except Error Unit :=
  if body.isEmpty then .ok () else refuse title .bodyUnsupported

/-! ## Changes -/

/-- Adds a node to the document, and says which. -/
def append (n : Node) : Building NodeId := do
  let id ← Work.read (·.document.size)
  Work.update (·.addNode n)
  return id

/-- Goes to a place. -/
def moveTo (place : Place) : Building Unit :=
  Work.update fun m => { m with place }

/-- Changes what is known of a file; it is an error when the node is none. -/
def changeFile (id : NodeId) (f : FileInfo → FileInfo) : Building Unit := do
  if ← Work.read fun m => (m.document.node? id).any Node.isFile then Work.update (·.modifyFile id f)
  else refuse (← Work.read (·.document.title id)) .fileExpected

/-- It is an error when the node is no item. -/
def requireItem (id : NodeId) : Building Unit := do
  if ← Work.read fun m => (m.document.node? id).any Node.isItem then return ()
  else refuse (← Work.read (·.document.title id)) .itemMissing

/-- Changes what is known of an item; it is an error when the node is none. -/
def changeItem (id : NodeId) (f : ItemInfo → ItemInfo) : Building Unit := do
  requireItem id
  Work.update (·.modifyItem id f)

/-! ## Files -/

/-- The files, those of priority first, in the order of the priority list. -/
def filesByPriority (m : Manual) : List NodeId :=
  let files := m.document.files
  ((m.priorityFiles.flatMap fun name =>
    files.filter fun file => m.document.subtitle file == name) ++ files).eraseDups

/-- Is the file one to be left out? -/
def isIgnored (m : Manual) (path : String) : Bool :=
  m.ignoredFiles.any (Path.same · path)

end Manual

/-- The parts of a list that commas divide, without blanks around them; empty parts do not count. -/
def listedNames (s : String) : List String :=
  ((Text.splitAt ',' s).map Text.trim).filter (!·.isEmpty)

end ScadManual
