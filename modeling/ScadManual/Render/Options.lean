import ScadManual.Text.Blank
import ScadManual.Text.Numeral
import ScadManual.Text.Search

/-!
# Render options

What the metadata of an image block asks of the renderer.  Flags are found as parts of the text, wherever
they stand; settings are found at the leftmost place where a key, an equals sign and a value of the right
form follow each other.
-/

namespace ScadManual.Render

/-- How the renderer draws. -/
inductive Mode where
  | preview
  | thrownTogether
  | render
  /-- The script is run and no image is made. -/
  | testOnly
deriving DecidableEq, Repr

/-- What is asked of the renderer. -/
structure Options where
  mode : Mode
  width : Nat
  height : Nat
  camera : Option (List Int)
  frames : Option Nat
  frameMs : Nat
  edges : Bool
  axes : Bool
  scales : Bool
  orthographic : Bool
  colorScheme : String
deriving DecidableEq, Repr

namespace Options

/-- The size of images of which nothing else is said. -/
def defaultWidth : Nat := 320

@[inherit_doc defaultWidth]
def defaultHeight : Nat := 240

/-- The time a frame is shown of which nothing else is said. -/
def defaultFrameMs : Nat := 250

/-- The number of frames of an animation of which nothing else is said. -/
def defaultFrames : Nat := 36

/-- The colours of images of which nothing else is said. -/
def defaultColorScheme : String := "Cornfield"

/-- The camera that looks at a solid. -/
def camera3D : List Int := [0, 0, 0, 55, 0, 25, 444]

/-- The camera that looks down on a drawing. -/
def camera2D : List Int := [0, 0, 0, 0, 0, 0, 444]

/-! ## Settings in metadata -/

/-- What the reader finds at the leftmost place at which it finds anything. -/
def firstMatch {α : Type} (read : List Char → Option α) : List Char → Option α
  | [] => read []
  | c :: cs =>
    match read (c :: cs) with
    | some a => some a
    | none => firstMatch read cs

/-- The characters without the spaces in front. -/
def skipSpaces (cs : List Char) : List Char :=
  cs.dropWhile (· == ' ')

/-- What follows a key and an equals sign, with spaces around the sign. -/
def afterKey? (key : String) (cs : List Char) : Option (List Char) :=
  match key.toList.isPrefixOf? cs with
  | none => none
  | some rest =>
    match skipSpaces rest with
    | '=' :: rest => some (skipSpaces rest)
    | _ => none

/-- A run of digits, at least one, and what follows. -/
def digits? (cs : List Char) : Option (List Char × List Char) :=
  let ds := cs.takeWhile Char.isDigit
  if ds.isEmpty then none else some (ds, cs.dropWhile Char.isDigit)

/-- `key = digits` -/
def number? (key : String) (cs : List Char) : Option (List Char) :=
  ((afterKey? key cs).bind digits?).map (·.1)

/-- `Size = digits x digits` -/
def size? (cs : List Char) : Option (List Char × List Char) := do
  let (width, rest) ← (afterKey? "Size" cs).bind digits?
  match skipSpaces rest with
  | 'x' :: rest =>
    let (height, _) ← digits? (skipSpaces rest)
    return (width, height)
  | _ => none

/-- `key = [anything]`, where the brackets hold at least one character. -/
def bracketed? (key : String) (cs : List Char) : Option (List Char) :=
  match afterKey? key cs with
  | some ('[' :: rest) =>
    match Text.cutChars? ']' rest with
    | some (inside, _) => if inside.isEmpty then none else some inside
    | none => none
  | _ => none

/-- `ColorScheme = words`, where the words hold letters and digits.  Spaces alone are a name too, the empty
one. -/
def colorScheme? (cs : List Char) : Option (List Char) :=
  match ("ColorScheme".toList.isPrefixOf? cs).map skipSpaces with
  | some ('=' :: rest) =>
    let run := rest.takeWhile fun c => Text.isAsciiAlnum c || c == ' '
    if run.isEmpty then none else some (Text.trimChars run)
  | _ => none

/-- The value of a numeric setting, when it is there and fits into 32 bits. -/
def numberSetting? (key : String) (metadata : String) : Option Nat :=
  (firstMatch (number? key) metadata.toList).bind Text.word32?

/-- The size: a setting, or a named multiple of the default. -/
def imageSize (metadata : String) : Nat × Nat :=
  match firstMatch size? metadata.toList with
  | some (w, h) => ((Text.word32? w).getD defaultWidth, (Text.word32? h).getD defaultHeight)
  | none =>
    if Text.contains metadata "Small" then (240, 180)
    else if Text.contains metadata "Med" then (480, 360)
    else if Text.contains metadata "Big" then (640, 480)
    else if Text.contains metadata "Huge" then (800, 600)
    else (defaultWidth, defaultHeight)

/-- The time each frame is shown.  A rate must be positive; a time in milliseconds wins over a rate. -/
def frameTime (metadata : String) : Nat :=
  match numberSetting? "FrameMS" metadata with
  | some ms => ms
  | none =>
    match numberSetting? "FPS" metadata with
    | some fps => if 0 < fps then 1000 / fps else defaultFrameMs
    | none => defaultFrameMs

/-- The number of frames, for an animation. -/
def frameCount? (metadata : String) : Option Nat :=
  match numberSetting? "Frames" metadata with
  | some n => some n
  | none =>
    if Text.contains metadata "Spin" || Text.contains metadata "Anim" then some defaultFrames else none

/-! ## Viewport lines -/

/-- The lines that set the viewport before the script runs: the turn of a spin, then the distance, the
target and the rotation that settings name. -/
def viewportLines (metadata : String) : List String :=
  let cs := metadata.toList
  let rotation := firstMatch (bracketed? "VPR") cs
  let spin :=
    if Text.contains metadata "FlatSpin" then ["$vpr = [55, 0, 360*$t];"]
    else if Text.contains metadata "Spin" && rotation.isNone then
      ["$vpr = [90-45*cos(360*$t), 0, 360*$t];"]
    else []
  let distance := (firstMatch (number? "VPD") cs).toList.map fun d =>
    "$vpd = " ++ String.ofList d ++ ";"
  let target := (firstMatch (bracketed? "VPT") cs).toList.map fun t =>
    "$vpt = [" ++ String.ofList t ++ "];"
  let turn := rotation.toList.map fun r => "$vpr = [" ++ String.ofList r ++ "];"
  spin ++ distance ++ target ++ turn

/-- The camera: a fixed one, unless the viewport is set by lines of the script. -/
def fixedCamera? (metadata : String) : Option (List Int) :=
  if (viewportLines metadata).isEmpty then
    if Text.contains metadata "3D" then some camera3D
    else if Text.contains metadata "2D" then some camera2D
    else none
  else none

/-- The mode the metadata names. -/
def modeOf (metadata : String) : Mode :=
  if Text.contains metadata "ThrownTogether" then .thrownTogether
  else if Text.contains metadata "Render" then .render
  else .preview

/-- The options that metadata spells. -/
def ofMetadata (metadata : String) : Options :=
  { mode := modeOf metadata
    width := (imageSize metadata).1
    height := (imageSize metadata).2
    camera := fixedCamera? metadata
    frames := frameCount? metadata
    frameMs := frameTime metadata
    edges := Text.contains metadata "Edges"
    axes := !Text.contains metadata "NoAxes"
    scales := !Text.contains metadata "NoScales"
    orthographic := !Text.contains metadata "Perspective"
    colorScheme :=
      ((firstMatch colorScheme? metadata.toList).map String.ofList).getD defaultColorScheme }

/-- Is an animation asked for? -/
def isAnimated (o : Options) : Bool :=
  o.frames.isSome

end Options

end ScadManual.Render
