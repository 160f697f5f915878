import ScadManual.Disk.Basic
import ScadManual.Render.Request

/-!
# Image files

Reading pictures from files, and telling whether an image file may stay when a new one has been made.  The
name of a file says in which format it is read.  Moving pictures must agree byte for byte; still ones may
differ by a little.
-/

namespace ScadManual.Render

/-- Why a file holds no picture that can be read. -/
inductive Undecodable where
  | unreadable (cause : DiskError)
  | unknownFormat
  | notPng
  | tooShort
  | notGif
deriving DecidableEq, Repr

/-- The wording of a failure to read a picture. -/
def Undecodable.message : Undecodable → String
  | .unreadable cause => cause.message
  | .unknownFormat => "The image format could not be determined"
  | .notPng => "Format error decoding Png: Invalid PNG signature."
  | .tooShort => "unexpected end of file"
  | .notGif => "Format error decoding Gif: malformed GIF header"

/-- The first picture of a list of frames. -/
def firstPicture (frames : List Frame) : Except Undecodable Picture :=
  match frames with
  | f :: _ => .ok f.picture
  | [] => .error .tooShort

/-- The bytes that every PNG file starts with. -/
def signatureLength : Nat := 8

/-- The extension of a path in small letters. -/
def formatName (path : String) : String :=
  String.ofList (((Path.extension? path).getD "").toList.map Char.toLower)

/-- The picture in a file, of a moving one the first frame. -/
def decode (d : Disk) (path : String) : Except Undecodable Picture :=
  match d.stat path with
  | .error e => .error (.unreadable e)
  | .ok (_, .directory) =>
    if formatName path = "png" || formatName path = "gif" then .error (.unreadable .isDirectory)
    else .error .unknownFormat
  | .ok (_, .file content) =>
    if formatName path = "png" then
      match content with
      | .still p => .ok p
      | .moving frames => firstPicture frames
      | .torn frames => firstPicture frames
      | .gif _ => .error .notPng
      | .bytes data => .error (if data.size < signatureLength then .tooShort else .notPng)
    else if formatName path = "gif" then
      match content with
      | .gif frames => firstPicture frames
      | _ => .error .notGif
    else .error .unknownFormat

/-- Is the file a moving picture in the format PNG? -/
def isMovingPng (d : Disk) (path : String) : Bool :=
  match d.read path with
  | .ok content => content.isMovingPng
  | .error _ => false

/-- Is the file a moving picture, by its name or by what it holds? -/
def isMoving (d : Disk) (path : String) : Bool :=
  isGif path || isMovingPng d path

/-- The largest difference of pictures that count as unchanged. -/
def defaultTolerance : Float := 2.0

/-- May the file `existing` stay in the place of `candidate`? -/
def matchesArtifact (d : Disk) (existing candidate : String) (tolerance : Float) :
    Except Error Bool :=
  if isMoving d existing && isMoving d candidate then
    match d.read existing, d.read candidate with
    | .ok a, .ok b => .ok (a == b)
    | .error e, _ => .error (.disk e)
    | _, .error e => .error (.disk e)
  else
    match decode d existing, decode d candidate with
    | .ok a, .ok b => .ok ((a.difference? b).any (· ≤ tolerance))
    | _, _ => .ok false

end ScadManual.Render
