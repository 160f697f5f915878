import ScadManual.Manual.Basic
import ScadManual.Render.Snippet
import ScadManual.Text.Casing

/-!
# Images of a manual

Figures and examples.  Images of a kind are numbered below each node, and the number is part of the name of
the image file, which lies in a directory for the source file.
-/

namespace ScadManual.Manual

/-- The part of a subtitle that file names carry: after the last slash, in small letters, with dashes for
spaces and without other punctuation. -/
def imageStem (subtitle : String) : String :=
  let name := Text.replaceChar (Text.toLower (Text.trim subtitle)) ' ' "-"
  let last := (Text.splitAt '/' name).getLastD ""
  String.ofList (last.toList.filter fun c => Text.isAsciiAlnum c || c == '_' || c == '-')

/-- The name of the image file with number `n`, of a node with a title and subtitle. -/
def imageFileName (kind : ImageKind) (title subtitle : String) (n : Nat) (extension : String) :
    String :=
  let stem := imageStem subtitle
  let ending := "." ++ extension
  match kind with
  | .figure =>
    let figure := "fig" ++ toString n ++ ending
    if title = "File" || title = "LibFile" then "figure" ++ toString n ++ ending
    else if title = "Section" || title = "Subsection" then
      Text.toLower title ++ "-" ++ stem ++ "_" ++ figure
    else stem ++ "_" ++ figure
  | .example => stem ++ (if n > 1 then "_" ++ toString n else "") ++ ending

/-- Where an image is, seen from the page of its source file. -/
def imagePageUrl (source name : String) : String :=
  Path.append (Path.append "images" ((Path.stem? (Text.trim source)).getD "")) name

/-- Where an image is, seen from the directory of all pages. -/
def imageUrl (source name : String) : String :=
  Path.append ((Path.parent? (Text.trim source)).getD "") (imagePageUrl source name)

/-- What is known of the image of a kind with a number below `parent`. -/
def imageInfo (m : Manual) (parent : NodeId) (kind : ImageKind) (number : Nat) (metadata : String)
    (body : List String) (origin : Origin) : Except Error ImageInfo :=
  let d := m.document
  let file := d.fileInfoOf parent
  let source := (References.originOf d (d.fileOf parent)).file
  let title := d.title parent
  let name :=
    imageFileName kind title (d.subtitle parent) number
      (Render.imageExtension metadata m.settings.pngAnimation)
  let script := Render.script file.includes file.common body
  let url := imageUrl source name
  let render := Render.wantsImage metadata title
  let info : ImageInfo :=
    { kind, number, metadata, script, url, render
      code := Render.shownCode file.includes body
      pageUrl := imagePageUrl source name
      request := none }
  if render && !info.isHidden then do
    let request ← Render.Request.make origin (Path.join m.settings.docsDir url) script metadata
    return { info with request := some request }
  else .ok info

/-- It is an error when the node does not count images of the kind: only items count examples. -/
def requireCounter (parent : NodeId) : ImageKind → Building Unit
  | .figure => return ()
  | .example => requireItem parent

/-- Counts one more image of a kind below `parent`, and says which it is. -/
def nextNumber (parent : NodeId) (kind : ImageKind) : Building Nat := do
  requireCounter parent kind
  let number ← Work.read (·.document.counted parent kind + 1)
  Work.update (·.countImage parent kind)
  return number

/-- Adds an image below `parent`. -/
def addImage (parent : NodeId) (kind : ImageKind) (label subtitle metadata : String) (body : List String)
    (origin : Origin) : Building Unit := do
  let infoOf ← Work.read fun m number => m.imageInfo parent kind number metadata body origin
  let number ← nextNumber parent kind
  let info ← infoOf number
  let _ ← append ⟨.image info, label ++ " " ++ toString number, subtitle, body, origin, 0, some parent⟩

/-- Adds one image for each line of a body; the first has the subtitle. -/
def addImageLines (parent : NodeId) (kind : ImageKind) (label subtitle metadata : String) (origin : Origin) :
    List String → Building Unit
  | [] => return ()
  | line :: lines => do
    addImage parent kind label subtitle metadata [line] origin
    addImageLines parent kind label "" metadata origin lines

/-- Adds the image of a block, or one for each line of its body when `each`, labelled with `label`. -/
def addImages (kind : ImageKind) (label : String) (each : Bool) (b : Block) : Building Unit := do
  match ← Work.read (·.place.parent?) with
  | none => refuse label .fileMissing
  | some parent =>
    if each then addImageLines parent kind label b.subtitle b.metadata b.origin b.body
    else addImage parent kind label b.subtitle b.metadata b.body b.origin

end ScadManual.Manual
