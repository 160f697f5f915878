import ScadManual.Log
import ScadManual.Render.Request
import ScadManual.Render.Snippet

/-!
# Tutorials

Markdown pages with fenced scripts.  A page is cut into plain lines and blocks: a block starts at a fence
marked `openscad`, which may carry metadata after a dash, and ends at the next plain fence.  The converted
page has each script followed by a reference to its image.
-/

namespace ScadManual

namespace Tutorial

/-- The settings for converting tutorials. -/
structure Settings where
  docsDir : String
  /-- What stands in front of the names of converted pages. -/
  pageStart : String
  /-- The directory of images, seen from the converted pages. -/
  imageRoot : String
  /-- Are animations written as PNG files? -/
  pngAnimation : Bool
  testOnly : Bool
  force : Bool
deriving DecidableEq, Repr

/-- The settings when nothing is said. -/
def Settings.default : Settings :=
  { docsDir := "docs"
    pageStart := ""
    imageRoot := "images"
    pngAnimation := true
    testOnly := false
    force := false }

/-! ## Blocks -/

/-- The start of a fence that opens a block. -/
def openFence : String := "```openscad"

/-- The fence that closes a block. -/
def closeFence : String := "```"

/-- A fenced script: the number of the line of its fence, its metadata and its lines. -/
structure Fenced where
  line : Nat
  metadata : String
  script : List String
deriving DecidableEq, Repr

/-- A part of a page. -/
inductive Part where
  | plain (line : String)
  | fenced (f : Fenced)
  /-- A block without an end, whose fence is on the given line. -/
  | unterminated (line : Nat)
deriving DecidableEq, Repr

/-- The metadata of a fence. -/
def fenceMetadata (line : String) : String :=
  ((Text.cut? '-' line).map (·.2)).getD ""

/-- The parts of lines, the first of which has the number `n`. -/
def partsFrom (n : Nat) (lines : List String) : List Part :=
  match lines with
  | [] => []
  | line :: rest =>
    if Text.startsWith line openFence then
      let script := rest.takeWhile (· != closeFence)
      if script.length < rest.length then
        .fenced ⟨n, fenceMetadata line, script⟩ ::
          partsFrom (n + script.length + 2) (rest.drop (script.length + 1))
      else [.unterminated n]
    else .plain line :: partsFrom (n + 1) rest
termination_by lines.length
decreasing_by all_goals grind

/-- The parts of a page. -/
def parts (lines : List String) : List Part := partsFrom 1 lines

/-! ## Conversion -/

/-- A converted page: its lines, the images it asks for and what is to be logged. -/
structure Page where
  lines : List String
  requests : List Render.Request
  entries : List LogEntry
deriving DecidableEq, Repr

/-- A page with nothing on it. -/
def Page.empty : Page := ⟨[], [], []⟩

/-- Both pages, one after the other. -/
def Page.append (p q : Page) : Page :=
  ⟨p.lines ++ q.lines, p.requests ++ q.requests, p.entries ++ q.entries⟩

/-- The name of a source without directory and extension. -/
def stem (source : String) : String := (Path.stem? source).getD ""

/-- Where an image is, seen from the converted page. -/
def imageUrl (s : Settings) (source : String) (number : Nat) (metadata : String) : String :=
  Path.append s.imageRoot
    (stem source ++ "_" ++ toString number ++ "." ++ Render.imageExtension metadata s.pngAnimation)

/-- The lines of a script, unless only its image is wanted. -/
def shownScript (f : Fenced) : List String :=
  if Text.contains f.metadata "ImgOnly" then [] else openFence :: f.script ++ [closeFence]

/-- The reference to an image. -/
def imageLine (number : Nat) (url : String) : String :=
  "![Figure " ++ toString number ++ "](" ++ url ++ ")"

/-- The page of a script, which is number `number`. -/
def convertFenced (s : Settings) (source : String) (number : Nat) (f : Fenced) : Page :=
  let url := imageUrl s source number f.metadata
  let lines := shownScript f ++ [imageLine number url]
  match Render.Request.make ⟨source, f.line⟩ (Path.join s.docsDir url) f.script f.metadata with
  | .ok r => ⟨lines, [r], []⟩
  | .error e => ⟨lines, [], [Finding.entry ⟨⟨source, f.line⟩, e⟩]⟩

/-- The page of parts; the next script is number `number`. -/
def convertParts (s : Settings) (source : String) (number : Nat) : List Part → Page
  | [] => .empty
  | .plain line :: rest => Page.append ⟨[line], [], []⟩ (convertParts s source number rest)
  | .fenced f :: rest =>
    Page.append (convertFenced s source number f) (convertParts s source (number + 1) rest)
  | .unterminated line :: rest =>
    Page.append
      ⟨[], [], [⟨source, line, "Unterminated openscad block, dropped", .warning⟩]⟩
      (convertParts s source (number + 1) rest)

/-- Converts a page. -/
def convert (s : Settings) (source : String) (lines : List String) : Page :=
  convertParts s source 1 (parts lines)

/-- Where the converted page of a source is written. -/
def outputFile (s : Settings) (source : String) : String :=
  Path.join s.docsDir (s.pageStart ++ stem source ++ ".md")

end Tutorial

end ScadManual
