import ScadManual.Render.Output
import ScadManual.Render.Request

/-!
# Failure reports

What the log says about an image that could not be made: the command and what it said, or else the error,
and then the script.
-/

namespace ScadManual.Render

/-- What stands in front of each line but the first. -/
def reportMargin : String := "     "

/-- The exit status in words. -/
def statusText : Option Int → String
  | some code => toString code
  | none => "None"

/-- The lines about how the renderer ended. -/
def outcomeLines (output : Option Output) (error : Option Error) : List String :=
  match output, error with
  | some out, _ =>
    ["cmd-line = " ++ String.intercalate " " out.commandLine] ++ out.stdout ++ out.stderr ++
      ["Return code = " ++ statusText out.code]
  | none, some e => [e.message]
  | none, none => []

/-- The report of a request that failed. -/
def failureReport (r : Request) (output : Option Output) (error : Option Error) : String :=
  let lines :=
    ["Image: " ++ r.imageName] ++ outcomeLines output error ++ [Text.times 32 "-=" ++ "-"] ++ r.script ++
      [Text.times 32 "=-" ++ "="]
  String.intercalate "\n" ("Failed OpenSCAD script:" :: lines.map (reportMargin ++ ·))

end ScadManual.Render
