import ScadManual.CommandLine.Session
import ScadManual.Glob.Expand
import ScadManual.Run.Tutorials
import ScadManual.Tutorial.Load

/-!
# The command that converts tutorials

Settings come from the project's file and then from the arguments, which may also name the pages.
-/

namespace ScadManual.CommandLine

namespace Tutorials

/-- The command. -/
def command : Command where
  name := "scad-mdimggen"
  about := "Render the OpenSCAD scripts in markdown files and insert the images"
  options :=
    [.path 'D' "docs-dir" "DOCS_DIR" "The directory to put the converted markdown files in",
     .text 'P' "file-prefix" "FILE_PREFIX" "Prefix added to each output file name",
     .flag (some 'T') "test-only" "Don't generate images, but do try executing the scripts",
     .text 'I' "image-root" "IMAGE_ROOT"
       "The directory to put images in, relative to the docs directory",
     .flag (some 'f') "force" "Force regeneration of images",
     .flag (some 'a') "png-animation" "Write animations as animated PNGs instead of GIFs",
     quietOption,
     verboseOption]
  filesName := "SRCFILES"
  filesHelp := "Markdown files or glob patterns. Defaults to `source_files` in the rc file"

/-- The settings with what the arguments say. -/
def configure (g : Given) (s : Tutorial.Settings) : Tutorial.Settings :=
  { docsDir := (g.get? "docs-dir").getD s.docsDir
    pageStart := (g.get? "file-prefix").getD s.pageStart
    imageRoot := (g.get? "image-root").getD s.imageRoot
    pngAnimation := s.pngAnimation || g.has "png-animation"
    testOnly := s.testOnly || g.has "test-only"
    force := s.force || g.has "force" }

/-- What the command does. -/
def action (host : Host) (g : Given) : Action Unit := do
  let project ← Action.orFail (fun _ => "Failed to read " ++ Tutorial.rcFile)
    (Tutorial.Project.load host.disk Tutorial.rcFile)
  let patterns := if g.files.isEmpty then project.sources.patterns else g.files
  let files ← Action.orFail Error.message (Glob.expand host.disk patterns)
  if files.isEmpty then throw (.refused ["No files to parse.  Aborting."])
  Action.useRenderer host.openScad "Rendering markdown images needs OpenSCAD"
  let summary ← Action.perform Error.message
    (Tutorial.process (configure g project.settings) files)
  Action.perform Error.message (Run.progress (summary.text "files"))

/-- Runs the command. -/
def run (host : Host) (args : List String) : Ended :=
  start command args host (action host)

end Tutorials

end ScadManual.CommandLine
