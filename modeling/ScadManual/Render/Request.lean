import ScadManual.Error
import ScadManual.Path
import ScadManual.Render.Options

/-!
# Render requests

Everything that is needed to make one image, settled before anything is run: the script with its viewport
lines in front, the options and the file.
-/

namespace ScadManual.Render

/-- A request for one image. -/
structure Request where
  origin : Origin
  imageFile : String
  script : List String
  metadata : String
  options : Options
  /-- Is the script shown below the image, and not beside it? -/
  scriptUnder : Bool
deriving DecidableEq, Repr

namespace Request

/-- Pixels that an image and the script beside it share. -/
def pageWidth : Int := 880

/-- Pixels that a character of the script takes. -/
def charWidth : Int := 9

/-- The length of the longest line. -/
def longest (lines : List String) : Nat :=
  (lines.map String.length).foldl max 0

/-- The request that an image block makes.  A script marked `NORENDER` makes none. -/
def make (origin : Origin) (imageFile : String) (script : List String) (metadata : String) :
    Except Error Request :=
  if Text.contains metadata "NORENDER" then
    .error (.render "Cannot render scripts marked NORENDER")
  else
    let options := Options.ofMetadata metadata
    let lines := Options.viewportLines metadata ++ script
    .ok
      { origin, imageFile, metadata, options
        script := lines
        scriptUnder :=
          decide (pageWidth - options.width < charWidth * longest lines) ||
            Text.contains metadata "ScriptUnder" }

/-- Does the script place the camera? -/
def setsViewport (r : Request) : Bool :=
  r.script.any (Text.contains · "$vp")

/-- The name of the image. -/
def imageName (r : Request) : String :=
  (Path.fileName? r.imageFile).getD ""

/-- The extension of the image, `png` when it has none. -/
def extension (r : Request) : String :=
  (Path.extension? r.imageFile).getD "png"

end Request

/-- Is the file a GIF file by its name? -/
def isGif (path : String) : Bool :=
  match Path.extension? path with
  | some e => String.ofList (e.toList.map Char.toLower) == "gif"
  | none => false

end ScadManual.Render
