import ScadManual.Text.Lines
import ScadManual.Text.Search

/-!
# Renderer output

What a renderer said and how it ended, with its lines sorted by the words they start with.
-/

namespace ScadManual.Render

/-- What a renderer said. -/
structure Output where
  success : Bool
  /-- The exit status; none when the renderer was stopped. -/
  code : Option Int
  commandLine : List String
  stdout : List String
  stderr : List String
  echos : List String
  warnings : List String
  errors : List String
deriving DecidableEq, Repr, Inhabited

namespace Output

/-- Lines that start with `ECHO:`. -/
def isEcho (line : String) : Bool := Text.startsWith line "ECHO:"

/-- Lines that start with `WARNING:`. -/
def isWarning (line : String) : Bool := Text.startsWith line "WARNING:"

/-- Lines that start with `ERROR:`. -/
def isError (line : String) : Bool := Text.startsWith line "ERROR:"

/-- The output of a command that wrote these two texts. -/
def ofStreams (commandLine : List String) (code : Option Int) (stdout stderr : String) : Output :=
  let out := Text.lines stdout
  let err := Text.lines stderr
  { success := code == some 0
    code, commandLine
    stdout := out
    stderr := err
    echos := (out ++ err).filter isEcho
    warnings := (out ++ err).filter isWarning
    errors := (out ++ err).filter isError }

/-- Did the renderer come to its end with status zero? -/
def good (o : Output) : Bool :=
  o.success && o.code == some 0

end Output

end ScadManual.Render
