import ScadManual.Error
import ScadManual.Text.Blank
import ScadManual.Text.Casing
import ScadManual.Text.Search

/-!
# Settings

What a documentation run is asked to do.  Settings come from the defaults, the user's file, the command line
and the project's file, each on top of the ones before.
-/

namespace ScadManual

/-- The kinds of pages a run writes. -/
structure PageSet where
  files : Bool
  contents : Bool
  index : Bool
  topics : Bool
  cheatSheet : Bool
  sidebar : Bool
deriving DecidableEq, Repr, Inhabited

namespace PageSet

/-- No page. -/
def none : PageSet := ⟨false, false, false, false, false, false⟩

/-- Is any kind of page asked for? -/
def any (p : PageSet) : Bool :=
  p.files || p.contents || p.index || p.topics || p.cheatSheet || p.sidebar

/-- The pages of both sets. -/
def union (p q : PageSet) : PageSet :=
  ⟨p.files || q.files, p.contents || q.contents, p.index || q.index, p.topics || q.topics,
    p.cheatSheet || q.cheatSheet, p.sidebar || q.sidebar⟩

/-- Adds a kind of pages by its name, in any case and with blanks around it. -/
def enable (p : PageSet) (name : String) : Except Error PageSet :=
  let key := Text.toUpper (Text.trim name)
  if key = "FILES" then .ok { p with files := true }
  else if key = "TOC" then .ok { p with contents := true }
  else if key = "INDEX" then .ok { p with index := true }
  else if key = "TOPICS" then .ok { p with topics := true }
  else if key = "CHEAT" || key = "CHEATSHEET" then .ok { p with cheatSheet := true }
  else if key = "SIDEBAR" then .ok { p with sidebar := true }
  else .error (.unknownPage (Text.trim name))

end PageSet

/-- Settings of a documentation run. -/
structure Settings where
  docsDir : String
  projectName : Option String
  targetProfile : String
  strict : Bool
  quiet : Bool
  force : Bool
  testOnly : Bool
  makeImages : Bool
  /-- Are animations written as PNG files? -/
  pngAnimation : Bool
  report : Bool
  pages : PageSet
deriving DecidableEq, Repr

namespace Settings

/-- The directory for pages when nothing else is said. -/
def defaultDocsDir : String := "docs"

/-- The settings when nothing is said. -/
def default : Settings :=
  { docsDir := defaultDocsDir
    projectName := none
    targetProfile := "githubwiki"
    strict := false
    quiet := false
    force := false
    testOnly := false
    makeImages := true
    pngAnimation := false
    report := false
    pages := PageSet.none }

/-- A directory without the slashes behind it and the blanks around it, unless nothing would be left. -/
def cleanDir (dir : String) : String :=
  let trimmed := ((Text.trimChars dir.toList).reverse.dropWhile (· == '/')).reverse
  if trimmed.isEmpty then dir else String.ofList trimmed

/-- Sets the directory for pages. -/
def setDocsDir (s : Settings) (dir : String) : Settings :=
  { s with docsDir := cleanDir dir }

/-- Is a flag's value one that means yes? -/
def flag (value : String) : Bool :=
  ["TRUE", "YES", "1"].contains (Text.toUpper (Text.trim value))

end Settings

end ScadManual
