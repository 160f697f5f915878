import ScadManual.Dialect
import ScadManual.Manual.Basic

/-!
# Directives

Blocks that only the project's configuration may hold: they change settings, name the tags that items may
carry, and say which files to leave out and which to put first.
-/

namespace ScadManual

/-- Finds the files that patterns stand for. -/
abbrev Finder := List String → Except Error (List String)

/-- The directives. -/
inductive Directive where
  | ignoreFiles
  | prioritizeFiles
  | docsDirectory
  | usePngAnimations
  | projectName
  | targetProfile
  | generateDocs
  | defineTags
deriving DecidableEq, Repr

/-- The directive of a title. -/
def Directive.ofTitle? : String → Option Directive
  | "IgnoreFiles" => some .ignoreFiles
  | "PrioritizeFiles" => some .prioritizeFiles
  | "DocsDirectory" => some .docsDirectory
  | "UsePNGAnimations" => some .usePngAnimations
  | "ProjectName" => some .projectName
  | "TargetProfile" => some .targetProfile
  | "GenerateDocs" => some .generateDocs
  | "DefineSynTags" => some .defineTags
  | _ => none

namespace Manual

/-- The patterns of a directive: its subtitle, unless it is empty, and its body. -/
def patternsOf (b : Block) : List String :=
  if b.subtitle.isEmpty then b.body else b.subtitle :: b.body

/-- Leaves out the files that the patterns of all such directives stand for.  Patterns are kept even when
the files cannot be found. -/
def ignoreFiles (find : Finder) (b : Block) : Building Unit := do
  let patterns := ((patternsOf b).map Text.trim).filter (!·.isEmpty)
  Work.update fun m => { m with ignoredPatterns := m.ignoredPatterns ++ patterns }
  let files ← (← Work.read fun m => find m.ignoredPatterns)
  Work.update fun m => { m with ignoredFiles := files }

/-- Puts the files that patterns stand for first. -/
def prioritizeFiles (find : Finder) (b : Block) : Building Unit := do
  let files ← find (patternsOf b)
  Work.update fun m => { m with priorityFiles := files }

/-- Changes the settings by a directive without a body. -/
def setting (b : Block) (change : Settings → Settings) : Building Unit := do
  requireNoBody b.title b.body
  Work.update fun m => { m with settings := change m.settings }

/-- Chooses the dialect of the pages. -/
def chooseProfile (b : Block) (profile : String) : Building Unit := do
  requireNoBody b.title b.body
  if Dialect.isName profile then
    Work.update fun m => { m with settings := { m.settings with targetProfile := profile } }
  else refuse b.title (.unknownProfile profile)

/-- The kinds of pages with one more; the error names the directive. -/
def enabledPage (pages : PageSet) (title name : String) : Except Error PageSet :=
  match pages.enable name with
  | .ok pages => .ok pages
  | .error _ => refuse title (.unknownPage (Text.trim name))

/-- Adds kinds of pages one after the other, up to one that is not known. -/
def enablePages (title : String) : List String → Building Unit
  | [] => return ()
  | name :: names => do
    let pages ← (← Work.read fun m => enabledPage m.settings.pages title name)
    Work.update fun m => { m with settings := { m.settings with pages } }
    enablePages title names

/-- Chooses kinds of pages, unless they were chosen before. -/
def generatePages (b : Block) : Building Unit := do
  requireNoBody b.title b.body
  if ← Work.read (·.pagesChosen) then return ()
  else enablePages b.title ((Text.splitAt ',' b.subtitle).filter fun part => !(Text.trim part).isEmpty)

/-- Defines tags one after the other, up to a line that defines none. -/
def defineTags (title : String) : List String → Building Unit
  | [] => return ()
  | line :: lines => do
    match Text.cut? '=' line with
    | some (tag, text) => do
      Work.update fun m => { m with tags := m.tags.insert (Text.trim tag) (Text.trim text) }
      defineTags title lines
    | none => refuse title (.malformedTag line)

/-- Follows a directive. -/
def follow (find : Finder) (directive : Directive) (b : Block) : Building Unit :=
  let text := Text.trim b.subtitle
  match directive with
  | .ignoreFiles => ignoreFiles find b
  | .prioritizeFiles => prioritizeFiles find b
  | .docsDirectory => setting b (·.setDocsDir text)
  | .usePngAnimations => setting b fun s => { s with pngAnimation := Settings.flag b.subtitle }
  | .projectName => setting b fun s => { s with projectName := some text }
  | .targetProfile => chooseProfile b text
  | .generateDocs => generatePages b
  | .defineTags =>
    if b.subtitle.isEmpty then defineTags b.title b.body else refuse b.title .subtitleUnsupported

end Manual

end ScadManual
