import ScadManual.Run.Basic
import ScadManual.Tutorial

/-!
# Tutorial runs

Each page is converted and written, and then its images are made: when the page has changed since they were
last made, when all are to be made, and when only testing.
-/

namespace ScadManual.Tutorial

variable {σ : Type}

/-- Adds entries to the log. -/
def logEntries (entries : List LogEntry) : Step σ Unit :=
  modify fun r => { r with log := entries.foldl Log.add r.log }

/-- Writes a converted page, unless only testing. -/
def writeConverted (s : Settings) (source : String) (page : Page) : Step σ Summary :=
  if s.testOnly then return Summary.empty
  else do
    let path := outputFile s source
    Run.announce path
    Run.writePage path page.lines
    return Summary.page path

/-- Logs what converting a file has found, writes the page, and sets the pipeline up for its images. -/
def preparePage (s : Settings) (source : String) (page : Page) : Step σ Summary := do
  logEntries page.entries
  let written ← writeConverted s source page
  Run.setTestOnly s.testOnly
  return written

/-- Converts a file and makes its images.  Without a hash store every file is stale. -/
def processFile (s : Settings) (source : String) (store : Option HashStore) :
    Step σ (Summary × Option HashStore) := do
  match (← get).disk.readText source with
  | .error e => throw (.disk e)
  | .ok text =>
    let page := convert s source (Text.lines text)
    let written ← preparePage s source page
    match store with
    | none =>
      let reports ← Run.settle page.requests true
      return (written.add (Summary.tally reports), none)
    | some store =>
      let (images, store) ← Run.makeImages page.requests (s.force || s.testOnly) source store
      return (written.add images, some store)

/-- Converts files and makes their images. -/
def processAll (s : Settings) (store : Option HashStore) : List String → Step σ Summary
  | [] => return Summary.empty
  | source :: sources => do
    let (first, store) ← processFile s source store
    let rest ← processAll s store sources
    return first.add rest

/-- Converts files and makes their images, keeping a hash store unless only testing. -/
def process (s : Settings) (sources : List String) : Step σ Summary := do
  let store ←
    if s.testOnly then pure none
    else do
      let store ← Run.loadHashes (Path.join s.docsDir HashStore.fileName)
      pure (some store)
  processAll s store sources

end ScadManual.Tutorial
