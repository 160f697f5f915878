/-!
# Lines

A text is cut into lines at line feeds.  A carriage return right before the line feed goes with it; one
anywhere else is part of the line.  A final line feed ends the last line and opens no new one.
-/

namespace ScadManual.Text

/-- The line without one carriage return at its end. -/
def dropReturn (cs : List Char) : List Char :=
  match cs.reverse with
  | '\r' :: rest => rest.reverse
  | _ => cs

/-- Lines from the pieces between line feeds: every piece but the last was ended by a line feed. -/
def endLines : List (List Char) → List (List Char)
  | [] => []
  | [last] => if last.isEmpty then [] else [last]
  | piece :: rest => dropReturn piece :: endLines rest

/-- The lines of a text. -/
def lines (s : String) : List String :=
  (endLines (s.toList.splitOn '\n')).map String.ofList

/-- The text that has the given lines, each ended by a line feed. -/
def unlines (ls : List String) : String :=
  String.join (ls.map (· ++ "\n"))

end ScadManual.Text
