import ScadManual.Disk.Temporary
import ScadManual.Log
import ScadManual.Render.Artifact
import ScadManual.Render.Failure
import ScadManual.Render.Renderer

/-!
# The build pipeline

Requests wait in a queue and are built one after the other.  A build writes the script and the new image to
temporary files, so that the image file changes in one step and only when the renderer made a good image
that differs from the one that is there.
-/

namespace ScadManual.Render

/-- How a build ended. -/
inductive Status where
  /-- There was no image before. -/
  | new
  | replaced
  /-- The image is unchanged, or nothing was to be made. -/
  | skipped
  | failed
deriving DecidableEq, Repr

namespace Status

/-- The word for a status. -/
def name : Status → String
  | .new => "NEW"
  | .replaced => "REPLACE"
  | .skipped => "SKIP"
  | .failed => "FAIL"

/-- Did the build succeed? -/
def isSuccess (s : Status) : Bool := s != .failed

/-- Was an image written? -/
def wroteImage (s : Status) : Bool := s == .new || s == .replaced

end Status

/-- What a build led to. -/
structure Report where
  origin : Origin
  imageFile : String
  status : Status
  output : Option Output

/-- A queue of requests and what they are built with. -/
structure Pipeline (σ : Type) where
  renderer : Renderer σ
  /-- The state of the renderer. -/
  state : σ
  /-- The directory for scripts, from which scripts include files. -/
  workDir : String
  /-- The largest difference of pictures that count as unchanged. -/
  tolerance : Float
  testOnly : Bool
  queue : List Request

/-- What an attempt at a request led to: how the image fared or why it failed, what the renderer said, and
the renderer's state and the disk afterwards. -/
structure Attempt (σ : Type) where
  result : Except Error Status
  output : Option Output
  state : σ
  disk : Disk

namespace Pipeline

variable {σ : Type}

/-- A pipeline with nothing in its queue. -/
def new (renderer : Renderer σ) (state : σ) : Pipeline σ :=
  { renderer, state
    workDir := "."
    tolerance := defaultTolerance
    testOnly := false
    queue := [] }

/-- Puts requests at the end of the queue. -/
def enqueue (p : Pipeline σ) (requests : List Request) : Pipeline σ :=
  { p with queue := p.queue ++ requests }

/-! ## One request -/

/-- The beginning of the names of temporary files. -/
def temporaryStart : String := "tmp_"

/-- A warning that is none: the camera was set on purpose. -/
def viewAllNotice : String := "Viewall and autocenter disabled"

/-- The directory of an image. -/
def imageDir (r : Request) : String :=
  match Path.parent? r.imageFile with
  | some dir => if dir.isEmpty then "." else dir
  | none => "."

/-- Makes the file that the renderer writes to: beside the image, so that it only needs another name; when
only testing in the directory for scripts. -/
def makeCandidate (p : Pipeline σ) (r : Request) (d : Disk) :
    Except DiskError (Disk.Temporary × Disk) :=
  if p.testOnly then d.makeTemporary p.workDir temporaryStart ".echo" [r.imageName]
  else do
    let d ← d.makeDirectories (imageDir r)
    d.makeTemporary (imageDir r) temporaryStart ("." ++ r.extension) [r.imageName]

/-- The call for a request.  The camera takes in everything unless the script places it. -/
def invocation (p : Pipeline σ) (r : Request) (script candidate : String) : Invocation :=
  let free := !r.setsViewport
  { scriptFile := script
    outputFile := candidate
    options := r.options
    autoCenter := free
    viewAll := free
    hardWarnings := free
    testOnly := p.testOnly }

/-- The output without warnings that are none. -/
def withoutNotices (o : Output) : Output :=
  { o with warnings := o.warnings.filter fun w => !Text.contains w viewAllNotice }

/-- Did the renderer end well and say nothing bad? -/
def isClean (o : Output) : Bool :=
  o.good && o.warnings.isEmpty && o.errors.isEmpty

/-- Is there anything in the file at a place? -/
def isProduced (d : Disk) (spot : Spot) : Bool :=
  match d.get? spot with
  | some (.file content) => !content.isEmpty
  | _ => false

/-- Puts a new image in its place, unless the one that is there may stay. -/
def place (p : Pipeline σ) (r : Request) (candidate : Disk.Temporary) (d : Disk) :
    Except Error Status × Disk :=
  let move (status : Status) : Except Error Status × Disk :=
    match d.move candidate.spot r.imageFile with
    | .ok d => (.ok status, d)
    | .error e => (.error (.disk e), d)
  if d.exists? r.imageFile then
    match matchesArtifact d r.imageFile candidate.path p.tolerance with
    | .error e => (.error e, d)
    | .ok true => (.ok .skipped, d)
    | .ok false => move .replaced
  else move .new

/-- What becomes of an image that the renderer was called for. -/
def settle (p : Pipeline σ) (r : Request) (candidate : Disk.Temporary)
    (result : Except Error Output) (d : Disk) : Except Error Status × Option Output × Disk :=
  match result with
  | .error e => (.error e, none, d)
  | .ok output =>
    let output := withoutNotices output
    if !isClean output then
      (.error (.render "Renderer reported failure"), some { output with success := false }, d)
    else if p.testOnly then (.ok .skipped, some output, d)
    else if !isProduced d candidate.spot then
      (.error (.render "Renderer produced no image"), some output, d)
    else
      let (status, d) := p.place r candidate d
      (status, some output, d)

/-- Tries to build a request.  Temporary files are gone afterwards. -/
def attempt (p : Pipeline σ) (r : Request) (d : Disk) : Attempt σ :=
  match d.makeTemporary p.workDir temporaryStart ".scad" [r.imageName] with
  | .error e => ⟨.error (.disk e), none, p.state, d⟩
  | .ok (script, d₁) =>
    match d₁.write script.path (.text (Text.unlines r.script)) with
    | .error e => ⟨.error (.disk e), none, p.state, d₁.erase script.spot⟩
    | .ok d₁ =>
      match p.makeCandidate r d₁ with
      | .error e => ⟨.error (.disk e), none, p.state, d₁.erase script.spot⟩
      | .ok (candidate, d₂) =>
        let reply := p.renderer.render (p.invocation r script.path candidate.path) p.state d₂
        let (result, output, d₃) := p.settle r candidate reply.result reply.disk
        ⟨result, output, reply.state, (d₃.erase candidate.spot).erase script.spot⟩

/-- Builds a request and logs how it went. -/
def build (p : Pipeline σ) (r : Request) (log : Log) (d : Disk) : Report × Pipeline σ × Log × Disk :=
  let a := p.attempt r d
  let (status, log) :=
    match a.result with
    | .ok status => (status, log)
    | .error e =>
      (.failed, log.add ⟨r.origin.file, r.origin.line, failureReport r a.output (some e), .error⟩)
  let log :=
    if status = .skipped then log
    else log.progress ("  " ++ r.imageName ++ "... " ++ status.name)
  (⟨r.origin, r.imageFile, status, a.output⟩, { p with state := a.state }, log, a.disk)

/-! ## The queue -/

/-- Builds requests in order. -/
def buildAll (p : Pipeline σ) (log : Log) (d : Disk) :
    List Request → List Report × Pipeline σ × Log × Disk
  | [] => ([], p, log, d)
  | r :: rs =>
    let (report, p, log, d) := p.build r log d
    let (reports, p, log, d) := p.buildAll log d rs
    (report :: reports, p, log, d)

/-- Builds everything in the queue. -/
def flush (p : Pipeline σ) (log : Log) (d : Disk) : List Report × Pipeline σ × Log × Disk :=
  { p with queue := [] }.buildAll log d p.queue

/-- Empties the queue without building anything. -/
def purge (p : Pipeline σ) : List Report × Pipeline σ :=
  (p.queue.map fun r => ⟨r.origin, r.imageFile, .skipped, none⟩, { p with queue := [] })

end Pipeline

end ScadManual.Render
