import ScadManual.Header
import ScadManual.Body
import ScadManual.Origin

/-!
# Blocks of a source

What a source says, in order: its blocks, blocks whose body is at fault, and gaps.  A gap stands wherever a
line is not a comment, and at the end.  The text of the program between the comments has no other trace
here, so nothing later can depend on it.
-/

namespace ScadManual

/-- A block: its header, its body without the indentation, and where its header stands. -/
structure Block where
  title : String
  metadata : String
  subtitle : String
  body : List String
  origin : Origin
deriving DecidableEq, Repr, Inhabited

/-- One thing a source says. -/
inductive Event where
  | block (b : Block)
  /-- A block with a body line that is indented less than the first. -/
  | shallow (title : String) (origin : Origin)
  /-- A line that is not a comment, or the end of the source. -/
  | gap
deriving DecidableEq, Repr

namespace Source

/-- The events of the lines of source `file`, the first of which has the number `line`. -/
def eventsFrom (file : String) (line : Nat) (lines : List String) : List Event :=
  match lines with
  | [] => [.gap]
  | text :: rest =>
    match Header.parse? text with
    | some h =>
      -- the number of the header is the index of the line below it
      match Body.read line rest with
      | .ok body =>
        .block ⟨h.title, h.metadata, h.subtitle, body.lines, ⟨file, line⟩⟩ ::
          eventsFrom file (body.stop + 1) (rest.drop (body.stop - line))
      | .error shallow =>
        .shallow h.title ⟨file, line⟩ :: eventsFrom file (shallow + 1) (rest.drop (shallow - line))
    | none =>
      if isComment text then eventsFrom file (line + 1) rest
      else .gap :: eventsFrom file (line + 1) rest
termination_by lines.length
decreasing_by all_goals grind

/-- The events of a source. -/
def events (file : String) (lines : List String) : List Event :=
  eventsFrom file 1 lines

end Source

end ScadManual
