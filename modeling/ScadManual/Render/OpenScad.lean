import ScadManual.Decimal
import ScadManual.Disk.Temporary
import ScadManual.Render.Animation
import ScadManual.Render.Renderer

/-!
# OpenSCAD

The renderer that calls the OpenSCAD program.  A still image is one call.  For an animation the program
writes one picture for each frame into a temporary directory, and these are joined to the output file.  A
program that takes too long is stopped.
-/

namespace ScadManual.Render

/-- How a program came to its end. -/
inductive Ending where
  | exited (code : Int)
  /-- By a signal. -/
  | stopped
  /-- Because it took too long. -/
  | timedOut
deriving DecidableEq, Repr

/-- What a program that was started did. -/
structure Ran where
  stdout : String
  stderr : String
  ending : Ending
  disk : Disk

/-- An installed OpenSCAD program. -/
structure OpenScad where
  path : String
  timeoutMs : Nat
  /-- Starts the program with arguments; nothing comes of it when there is no such program. -/
  run : List String → Disk → Option Ran

namespace OpenScad

/-- The milliseconds a program gets when nothing else is said. -/
def defaultTimeoutMs : Nat := 60000

/-- The directory for temporary directories. -/
def temporaryRoot : String := "/tmp"

/-- Milliseconds in seconds, as text. -/
def secondsText (ms : Nat) : String :=
  Decimal.ofFloat32
    (Float32.ofNat (ms / 1000) + Float32.ofNat (ms % 1000 * 1000000) / Float32.ofNat 1000000000)

/-- What a started program said and how it ended. -/
def outputOf (o : OpenScad) (commandLine : List String) (ran : Ran) : Output :=
  match ran.ending with
  | .exited code => Output.ofStreams commandLine (some code) ran.stdout ran.stderr
  | .stopped => Output.ofStreams commandLine none ran.stdout ran.stderr
  | .timedOut =>
    Output.ofStreams commandLine none ran.stdout
      (ran.stderr ++ "\nERROR: Timed out after " ++ secondsText o.timeoutMs ++ " seconds")

/-- Calls the program. -/
def call (o : OpenScad) (args : List String) (d : Disk) : Except Error Output × Disk :=
  match o.run args d with
  | some ran => (.ok (o.outputOf (o.path :: args) ran), ran.disk)
  | none => (.error (.render ("Could not run " ++ o.path ++ ": " ++ DiskError.notFound.message)), d)

/-- The pictures in a temporary directory, in the order of their names. -/
def frameFiles (d : Disk) (dir : Disk.Temporary) : List String :=
  ((d.childNames dir.spot).filter fun name => Path.extension? name == some "png").map
    (Path.join dir.path)

/-- Joins the pictures in a temporary directory, when the program ended well. -/
def joinFrames (inv : Invocation) (dir : Disk.Temporary) (output : Output) (d : Disk) :
    Except Error Output × Disk :=
  if !output.good then (.ok output, d)
  else
    let files := frameFiles d dir
    if files.isEmpty then
      (.ok { output with
        success := false
        errors := output.errors ++ ["ERROR: No animation frames were produced"] }, d)
    else
      let (result, d) := assemble d files inv.outputFile inv.options.frameMs
      (result.map fun _ => output, d)

/-- Makes an animation of so many frames. -/
def animate (o : OpenScad) (inv : Invocation) (count : Nat) (d : Disk) : Except Error Output × Disk :=
  match d.makeTemporaryDirectory temporaryRoot ".tmp" with
  | .error e => (.error (.disk e), d)
  | .ok (dir, d) =>
    let (result, d) := o.call (inv.args (Path.join dir.path "frame.png") (some count)) d
    match result with
    | .error e => (.error e, d.eraseTree dir.spot)
    | .ok output =>
      let (result, d) := joinFrames inv dir output d
      (result, d.eraseTree dir.spot)

/-- Answers an invocation. -/
def answer (o : OpenScad) (inv : Invocation) (d : Disk) : Except Error Output × Disk :=
  match inv.options.frames, inv.testOnly with
  | some count, false => o.animate inv count d
  | _, _ => o.call (inv.args inv.outputFile none) d

/-- The renderer that calls the program. -/
def renderer (o : OpenScad) : Renderer Unit where
  render inv state d :=
    let (result, d) := o.answer inv d
    ⟨result, state, d⟩

end OpenScad

end ScadManual.Render
