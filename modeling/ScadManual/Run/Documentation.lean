import ScadManual.Document.Dump
import ScadManual.Document.Outline
import ScadManual.Glob.Expand
import ScadManual.Log.Record
import ScadManual.Manual.Read
import ScadManual.Page.CheatSheet
import ScadManual.Page.Contents
import ScadManual.Page.Index
import ScadManual.Page.Sidebar
import ScadManual.Run.Basic

/-!
# Documentation runs

All sources are read before any page is written, so that links can point anywhere.  Each file gets its page
and then its images; images of a file that has not changed since they were last made are left alone.  A file
for which an error was logged is forgotten by the hash store, so that the next run tries it again.
-/

namespace ScadManual.Documentation

variable {σ : Type}

/-! ## Reading -/

/-- Reads the project's configuration, if the file is there; tells whether it is. -/
def readRc (m : Manual) (path : String) : Step σ (Manual × Bool) := do
  let disk := (← get).disk
  if disk.exists? path then
    match disk.readText path with
    | .error e => throw (.disk e)
    | .ok text =>
      let (m, found) :=
        m.readConfiguration (Glob.expand disk) rcFile (Manual.configurationLines text)
      Run.record found
      return (m, true)
  else return (m, false)

/-- Reads lines as a source file. -/
def readLines (m : Manual) (source : String) (lines : List String) : Step σ Manual := do
  let (m, found) := m.readCode source lines
  Run.record found
  return m

/-- Reads a source file, unless it is one to be left out.  A file that cannot be read is logged. -/
def readFile (m : Manual) (path : String) : Step σ Manual := do
  if m.isIgnored path then return m
  Run.progress (" " ++ path)
  match (← get).disk.readText path with
  | .ok text => readLines m path (Text.lines text)
  | .error e =>
    Run.record [⟨⟨path, 0⟩, .disk e⟩]
    return m

/-- Reads source files in order. -/
def readFiles (m : Manual) (paths : List String) : Step σ Manual := do
  Run.progress "Parsing..."
  paths.foldlM readFile m

/-! ## Pages of files -/

/-- The images asked for below a node, in the order of the document. -/
def requestsBelow (d : Document) (id : NodeId) : List Render.Request :=
  let own := (((d.node? id).bind Node.image?).bind (·.request)).toList
  own ++ (d.children id).attach.flatMap fun ⟨c, h⟩ =>
    have := Document.sub_lt_of_mem_children h
    requestsBelow d c
termination_by d.size - id

/-- The files in the order in which their pages are written: by their names. -/
def filesByName (d : Document) : List NodeId :=
  Text.sortBy (fun file => Text.trim (d.subtitle file)) d.files

/-- The source of a file. -/
def sourceOf (d : Document) (file : NodeId) : String :=
  (References.originOf d file).file

/-- The page of a file. -/
def pageOf (settings : Settings) (source : String) : String :=
  Path.join settings.docsDir (source ++ Dialect.suffix)

/-- Tries the scripts of a file without writing anything. -/
def testFile (s : Page.Setting) (file : NodeId) : Step σ Summary := do
  let _ ← Run.noted (s.filePage file)
  Run.setTestOnly true
  let reports ← Run.settle (requestsBelow s.doc file) true
  return Summary.tally reports

/-- Tries the scripts of files. -/
def testFiles (s : Page.Setting) : List NodeId → Step σ Summary
  | [] => return Summary.empty
  | file :: files => do
    let first ← testFile s file
    let rest ← testFiles s files
    return first.add rest

/-- Writes the page of a file. -/
def writePageOf (settings : Settings) (s : Page.Setting) (file : NodeId) : Step σ Summary := do
  let path := pageOf settings (sourceOf s.doc file)
  Run.announce path
  let lines ← Run.noted (s.filePage file)
  Run.writePage path lines
  return Summary.page path

/-- Writes the page of a file and makes its images. -/
def writeFile (settings : Settings) (s : Page.Setting) (file : NodeId) (store : HashStore) :
    Step σ (Summary × HashStore) := do
  let page ← writePageOf settings s file
  if (← get).pipeline.isSome && settings.makeImages then
    let (images, store) ←
      Run.makeImages (requestsBelow s.doc file) settings.force (sourceOf s.doc file) store
    return (page.add images, store)
  else return (page, store)

/-- Writes the pages of files and makes their images. -/
def writeFiles (settings : Settings) (s : Page.Setting) (store : HashStore) :
    List NodeId → Step σ Summary
  | [] => return Summary.empty
  | file :: files => do
    let (first, store) ← writeFile settings s file store
    let rest ← writeFiles settings s store files
    return first.add rest

/-- How pages of a manual are written. -/
def settingOf (m : Manual) : Step σ Page.Setting :=
  match Dialect.ofName m.settings.targetProfile with
  | .ok dialect => return ⟨m.library, dialect⟩
  | .error e => throw e

/-- Writes the pages of all files and makes their images, or only tries their scripts. -/
def writeFilePages (m : Manual) : Step σ Summary := do
  let s ← settingOf m
  let files := filesByName m.document
  if m.settings.testOnly then testFiles s files
  else
    Run.onDisk (·.makeDirectories m.settings.docsDir)
    let store ← Run.loadHashes (Path.join m.settings.docsDir HashStore.fileName)
    writeFiles m.settings s store files

/-! ## Index pages -/

/-- The lines of an index page. -/
def indexLines (m : Manual) (s : Page.Setting) : IndexPage → Noted (List String)
  | .contents => s.contentsPage m.filesByPriority
  | .topics => Noted.of s.topicsPage
  | .alphabetical => Noted.of s.alphabeticalPage
  | .cheatSheet => Noted.of (s.cheatSheetPage m.filesByPriority m.settings.projectName)
  | .sidebar => s.sidebarPage m.filesByPriority

/-- Writes an index page. -/
def writeIndexPage (m : Manual) (page : IndexPage) : Step σ Summary := do
  let s ← settingOf m
  let lines ← Run.noted (indexLines m s page)
  Run.onDisk (·.makeDirectories m.settings.docsDir)
  let path := Path.join m.settings.docsDir (s.dialect.pageFile page)
  Run.announce path
  Run.writePage path lines
  return Summary.page path

/-- The index pages that are asked for, in the order in which they are written. -/
def indexPages (p : PageSet) : List IndexPage :=
  (if p.contents then [.contents] else []) ++ (if p.index then [.alphabetical] else []) ++
    (if p.topics then [.topics] else []) ++ (if p.cheatSheet then [.cheatSheet] else []) ++
    (if p.sidebar then [.sidebar] else [])

/-- Writes index pages. -/
def writeIndexPages (m : Manual) : List IndexPage → Step σ Summary
  | [] => return Summary.empty
  | page :: pages => do
    let first ← writeIndexPage m page
    let rest ← writeIndexPages m pages
    return first.add rest

/-- Writes the log as a report. -/
def writeReport : Step σ Unit := do
  let text := (← get).log.reportText
  Run.onDisk (·.write Log.reportFile (.text text))

/-- Writes everything that the settings ask for. -/
def generate (m : Manual) : Step σ Summary := do
  let pages := m.settings.pages
  let files ←
    if pages.files || m.settings.testOnly then writeFilePages m else pure Summary.empty
  let indexes ← writeIndexPages m (indexPages pages)
  if m.settings.report then writeReport
  return files.add indexes

/-! ## Dumps -/

/-- How deep the outline of a manual goes. -/
def outlineDepth : Nat := 6

/-- The outline of a manual. -/
def outline (m : Manual) : List String :=
  m.document.outline m.document.files outlineDepth

end ScadManual.Documentation
