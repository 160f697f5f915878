import ScadManual.Render.Artifact

/-!
# Assembling animations

Still pictures in files joined to one moving picture, each shown for the same time.  All frames are read
before anything is written.
-/

namespace ScadManual.Render

/-- The error of an animation that could not be assembled. -/
def assemblyError (output message : String) : Error :=
  .render ("Could not assemble " ++ output ++ ": " ++ message)

/-- The frames in the given files, in red, green, blue and opacity. -/
def frames (d : Disk) (output : String) (files : List String) : Except Error (List Picture) :=
  files.mapM fun file =>
    match decode d file with
    | .ok p => .ok p.toRgba8
    | .error e => .error (assemblyError output e.message)

/-- Delays of GIF files are whole hundredths of a second. -/
def gifDelay (ms : Nat) : Nat := ms / 10 * 10

/-- The longest delay of a PNG file. -/
def maxPngDelay : Nat := 65535

/-- Joins pictures to a GIF file.  Without pictures the file is empty. -/
def assembleGif (d : Disk) (files : List String) (output : String) (ms : Nat) : Except Error Disk := do
  let pictures ← frames d output files
  let content :=
    if pictures.isEmpty then Content.empty
    else Content.gif (pictures.map fun p => ⟨gifDelay ms, p⟩)
  (d.write output content).mapError Error.disk

/-- Joins pictures to a PNG file; all must have the size of the first.  A picture of another size breaks the
file off, which is written all the same. -/
def assemblePng (d : Disk) (files : List String) (output : String) (ms : Nat) :
    Except Error Unit × Disk :=
  match frames d output files with
  | .error e => (.error e, d)
  | .ok [] => (.error (assemblyError output "no frames"), d)
  | .ok (first :: rest) =>
    let pictures := first :: rest
    let sameSize (p : Picture) : Bool := p.width == first.width && p.height == first.height
    let frame (p : Picture) : Frame := ⟨min ms maxPngDelay, p⟩
    let content :=
      if pictures.all sameSize then Content.moving (pictures.map frame)
      else .torn ((pictures.takeWhile sameSize).map frame)
    match d.write output content with
    | .error e => (.error (.disk e), d)
    | .ok d =>
      match pictures.find? (!sameSize ·) with
      | none => (.ok (), d)
      | some p =>
        (.error (assemblyError output ("frame is " ++ toString p.width ++ "x" ++ toString p.height ++
          ", expected " ++ toString first.width ++ "x" ++ toString first.height)), d)

/-- Joins pictures to a moving picture of the format that the file's name asks for. -/
def assemble (d : Disk) (files : List String) (output : String) (ms : Nat) :
    Except Error Unit × Disk :=
  if isGif output then
    match assembleGif d files output ms with
    | .ok d => (.ok (), d)
    | .error e => (.error e, d)
  else assemblePng d files output ms

end ScadManual.Render
