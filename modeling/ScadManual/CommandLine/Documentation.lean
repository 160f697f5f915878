import ScadManual.CommandLine.Session
import ScadManual.Run.Documentation
import ScadManual.Settings.Load

/-!
# The command that writes documentation

Settings come from the user's file, then from the arguments and then from the project's file.  All sources
must be there before the first is read.
-/

namespace ScadManual.CommandLine

namespace Documentation

/-- The command. -/
def command : Command where
  name := "scad-docsgen"
  about := "Generate documentation pages and example images from OpenSCAD source comments"
  options :=
    [.path 'D' "docs-dir" "DOCS_DIR" "The directory to put generated documentation in",
     .flag (some 'T') "test-only" "Don't generate images, but do try executing the scripts",
     quietOption,
     .flag (some 'S') "strict" "Require File/LibFile and Section headers",
     .flag (some 'f') "force" "Force regeneration of images",
     .flag (some 'n') "no-images" "Skip image generation",
     .flag (some 'm') "gen-files" "Generate documents for each source file",
     .flag (some 't') "gen-toc" "Generate the table of contents page",
     .flag (some 'i') "gen-index" "Generate the alphabetical index page",
     .flag (some 'I') "gen-topics" "Generate the topics index page",
     .flag (some 'c') "gen-cheat" "Generate the cheat sheet page with all Usage lines",
     .flag (some 's') "gen-sidebar" "Generate the _Sidebar file index page",
     .flag (some 'a') "png-animation" "Write animations as animated PNGs instead of GIFs",
     .text 'P' "project-name" "PROJECT_NAME" "The name of the project to be shown in titles",
     .flag (some 'r') "report" "Write all warnings and errors to docsgen_report.json",
     .flag (some 'd') "dump-tree" "Dump the documentation tree for debugging",
     .flag none "dump-json" "Dump the documentation tree as JSON",
     ⟨"target-profile", some 'p', some "TARGET_PROFILE", "The output target profile", Dialect.isName⟩,
     verboseOption]
  filesName := "SRCFILES"
  filesHelp := "Input source files or glob patterns. Defaults to `*.scad`"

/-- The settings with what the arguments say. -/
def configure (g : Given) (s : Settings) : Settings :=
  let s := match g.get? "docs-dir" with
    | some dir => s.setDocsDir dir
    | none => s
  { s with
    projectName := g.get? "project-name" <|> s.projectName
    targetProfile := (g.get? "target-profile").getD s.targetProfile
    quiet := s.quiet || g.has "quiet"
    strict := s.strict || g.has "strict"
    force := s.force || g.has "force"
    testOnly := s.testOnly || g.has "test-only"
    report := s.report || g.has "report"
    pngAnimation := s.pngAnimation || g.has "png-animation"
    makeImages := s.makeImages && !g.has "no-images"
    pages := s.pages.union
      ⟨g.has "gen-files", g.has "gen-toc", g.has "gen-index", g.has "gen-topics", g.has "gen-cheat",
        g.has "gen-sidebar"⟩ }

/-- The patterns of the sources when none are named. -/
def defaultPatterns : List String := ["*.scad"]

/-- Is the pattern the name of a file, with nothing to be filled in? -/
def isLiteral (pattern : String) : Bool :=
  !pattern.toList.any fun c => c = '*' || c = '?' || c = '['

/-- The files of patterns.  Names that were not found stay among them. -/
def sourceFiles (d : Disk) (patterns : List String) : Except Error (List String) := do
  let found ← Glob.expand d patterns
  return patterns.foldl (fun files p =>
    if isLiteral p && !files.any (Path.same p) then files ++ [p] else files) found

/-- Why a file cannot be a source. -/
def problem? (d : Disk) (file : String) : Option String :=
  if !d.exists? file then some (file ++ " does not exist.")
  else if !d.isFile file then some (file ++ " is not a file.")
  else none

/-- What the command does. -/
def action (host : Host) (g : Given) : Action Unit := do
  let settings ← Action.orFail
    (fun _ => "Failed to load config file at " ++ Settings.userFile host.environment)
    (Settings.loadUser host.environment host.disk)
  let m := Manual.new (configure g settings)
  let (m, _) ← Action.perform (fun _ => "Failed to read " ++ rcFile)
    (ScadManual.Documentation.readRc m rcFile)
  let patterns := if g.files.isEmpty then defaultPatterns else g.files
  let files ← Action.orFail Error.message (sourceFiles (← Action.disk) patterns)
  let disk ← Action.disk
  let problems := files.filterMap (problem? disk)
  if !problems.isEmpty then throw (.refused problems)
  let m ← Action.perform Error.message (ScadManual.Documentation.readFiles m files)
  if g.has "dump-tree" then Action.print (ScadManual.Documentation.outline m)
  if g.has "dump-json" then Action.print [m.document.dump]
  if m.settings.testOnly || (m.settings.pages.files && m.settings.makeImages) then
    Action.useRenderer host.openScad
      "Image generation needs OpenSCAD; pass --no-images to skip it"
  let summary ← Action.perform Error.message (ScadManual.Documentation.generate m)
  Action.perform Error.message (Run.progress (summary.text "pages"))

/-- Runs the command. -/
def run (host : Host) (args : List String) : Ended :=
  start command args host (action host)

end Documentation

end ScadManual.CommandLine
