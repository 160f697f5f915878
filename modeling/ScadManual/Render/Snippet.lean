import ScadManual.Text.Blank
import ScadManual.Text.Search

/-!
# Snippets

The script of an image block, in two readings.  A body line marked `--` is for the renderer only: the script
has it without the mark, and the code that a page shows leaves it out.
-/

namespace ScadManual.Render

/-- What follows the mark of a line for the renderer only. -/
def hiddenLine? (line : String) : Option String :=
  Text.afterStart? (Text.trim line) "--"

/-- The lines the renderer gets: the includes, the common code, then the body with hidden lines unmarked. -/
def script (includes common body : List String) : List String :=
  includes ++ common ++ body.map fun line => (hiddenLine? line).getD line

/-- The lines a page shows: the includes, then the body without hidden lines. -/
def shownCode (includes body : List String) : List String :=
  includes ++ body.filter fun line => (hiddenLine? line).isNone

/-- Does an image block below a block of the given title make an image? -/
def wantsImage (metadata parentTitle : String) : Bool :=
  !Text.contains metadata "NORENDER" &&
    (["2D", "3D", "Spin", "Anim"].any (Text.contains metadata) ||
      ["File", "LibFile", "Module", "Function&Module"].contains parentTitle)

/-- The extension of the image.  Animations are GIF files unless they are to be PNG files. -/
def imageExtension (metadata : String) (pngAnimation : Bool) : String :=
  if !pngAnimation && (Text.contains metadata "Spin" || Text.contains metadata "Anim") then "gif"
  else "png"

end ScadManual.Render
