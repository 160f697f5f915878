import ScadManual.HashStore
import ScadManual.Noted
import ScadManual.Render.Pipeline
import ScadManual.Work

/-!
# Runs

What a run works on: the disk, the log and, when images are to be made, a pipeline.  A step of a run either
gives a value or stops with an error; what it did before it stopped stays done.
-/

namespace ScadManual

/-- What a run works on. -/
structure Run (σ : Type) where
  disk : Disk
  log : Log
  pipeline : Option (Render.Pipeline σ)

/-- A step of a run. -/
abbrev Step (σ α : Type) := Work (Run σ) α

/-- What a run produced: the pages it wrote, and how many images fared in which way. -/
structure Summary where
  pages : List String
  new : Nat
  replaced : Nat
  skipped : Nat
  failed : Nat
deriving DecidableEq, Repr

namespace Summary

/-- Nothing produced. -/
def empty : Summary := ⟨[], 0, 0, 0, 0⟩

/-- Both together. -/
def add (s t : Summary) : Summary :=
  ⟨s.pages ++ t.pages, s.new + t.new, s.replaced + t.replaced, s.skipped + t.skipped,
    s.failed + t.failed⟩

/-- A page that was written. -/
def page (path : String) : Summary := { empty with pages := [path] }

/-- How often a status occurs in reports. -/
def countOf (status : Render.Status) (reports : List Render.Report) : Nat :=
  (reports.filter (·.status == status)).length

/-- What reports add up to. -/
def tally (reports : List Render.Report) : Summary :=
  ⟨[], countOf .new reports, countOf .replaced reports, countOf .skipped reports,
    countOf .failed reports⟩

/-- The number of images that were written. -/
def imagesWritten (s : Summary) : Nat := s.new + s.replaced

/-- The summary in words, of things called `things`. -/
def text (s : Summary) (things : String) : String :=
  toString s.pages.length ++ " " ++ things ++ " written; images: " ++ toString s.new ++ " new, " ++
    toString s.replaced ++ " replaced, " ++ toString s.skipped ++ " unchanged, " ++
    toString s.failed ++ " failed"

end Summary

namespace Run

variable {σ : Type}

/-- A run on a disk, with nothing logged. -/
def start (disk : Disk) (pipeline : Option (Render.Pipeline σ)) : Run σ :=
  ⟨disk, Log.empty, pipeline⟩

/-- Logs findings. -/
def record (findings : List Finding) : Step σ Unit :=
  modify fun r => { r with log := r.log.recordAll findings }

/-- Notes progress. -/
def progress (text : String) : Step σ Unit :=
  modify fun r => { r with log := r.log.progress text }

/-- Takes a noted value, logging what was found. -/
def noted {α : Type} (n : Noted α) : Step σ α := do
  record n.findings
  return n.value

/-- Changes the disk. -/
def onDisk (change : Disk → Except DiskError Disk) : Step σ Unit := do
  let r ← get
  match change r.disk with
  | .ok disk => set { r with disk }
  | .error e => throw (.disk e)

/-- Says which page is written next. -/
def announce (path : String) : Step σ Unit :=
  progress ("Writing " ++ path ++ "...")

/-- Writes a page. -/
def writePage (path : String) (lines : List String) : Step σ Unit :=
  onDisk (·.writeLines path lines)

/-- Lets the pipeline, if there is one, only test or really build from now on. -/
def setTestOnly (testOnly : Bool) : Step σ Unit :=
  modify fun r => { r with pipeline := r.pipeline.map fun p => { p with testOnly } }

/-- Hands requests to the pipeline, if there is one: all are built, or else all are skipped. -/
def settle (requests : List Render.Request) (build : Bool) : Step σ (List Render.Report) := do
  let r ← get
  match r.pipeline with
  | none => return []
  | some p =>
    let p := p.enqueue requests
    if build then
      let (reports, p, log, disk) := p.flush r.log r.disk
      set { r with pipeline := some p, log, disk }
      return reports
    else
      let (reports, p) := p.purge
      set { r with pipeline := some p }
      return reports

/-- Loads a hash store. -/
def loadHashes (path : String) : Step σ HashStore := do
  let (store, findings) := HashStore.load (← get).disk path
  record findings
  return store

/-- Writes a hash store, without the source if an error was logged for it. -/
def commitHashes (store : HashStore) (source : String) : Step σ HashStore := do
  let r ← get
  let store := store.forgetBad r.log source
  match store.commit r.disk with
  | .ok disk =>
    set { r with disk }
    return store
  | .error e => throw e

/-- Makes the images that a source asks for, when it is stale or all are to be made, and otherwise skips them.
The store notes the digest of the source, however the images fare. -/
def buildImages (requests : List Render.Request) (all : Bool) (source : String) (store : HashStore) :
    Step σ (List Render.Report × HashStore) := do
  let (stale, store) := store.check (← get).disk source
  let reports ← settle requests (all || stale)
  return (reports, store)

/-- Makes the images that a source asks for and writes the store. -/
def makeImages (requests : List Render.Request) (all : Bool) (source : String) (store : HashStore) :
    Step σ (Summary × HashStore) := do
  let (reports, store) ← buildImages requests all source store
  let store ← commitHashes store source
  return (Summary.tally reports, store)

end Run

end ScadManual
