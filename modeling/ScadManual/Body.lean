import ScadManual.Text.Blank
import ScadManual.Text.Search

/-!
# Bodies

The body of a block is the run of comment lines below its header that are indented by two spaces or more.
The first line's indentation, whatever blanks it is made of, is the body's: its width in bytes is taken off
every line, and a later line must start with as many spaces.  A line that is indented by two spaces but by
less than the first one is a fault; any other line ends the body.
-/

namespace ScadManual

/-- A body: its lines without the indentation, and the index of the first line after it. -/
structure Body where
  lines : List String
  stop : Nat
deriving DecidableEq, Repr

namespace Body

/-- What follows the two slashes of a comment line. -/
def afterSlashes? (line : String) : Option (List Char) :=
  match line.toList with
  | '/' :: '/' :: rest => some rest
  | _ => none

/-- Do the characters start with `n` spaces? -/
def indentedBy (n : Nat) (cs : List Char) : Bool :=
  (List.replicate n ' ').isPrefixOf cs

/-- A body with one more line in front. -/
def cons (text : String) (body : Body) : Body := { body with lines := text :: body.lines }

/-- The lines from index `pos` on, which are not the first, of a body indented by `indent`. -/
def readMore (indent : Nat) (pos : Nat) : List String → Except Nat Body
  | [] => .ok ⟨[], pos⟩
  | line :: lines =>
    match afterSlashes? line with
    | none => .ok ⟨[], pos⟩
    | some rest =>
      if indentedBy indent rest then
        (readMore indent (pos + 1) lines).map (cons (String.ofList (Text.trimEndChars (rest.drop indent))))
      else if indentedBy 2 rest then .error pos
      else .ok ⟨[], pos⟩

/-- The body that starts with the first of the lines, which are those from index `start` on; or the index of a
line that is indented less than the first. -/
def read (start : Nat) : List String → Except Nat Body
  | [] => .ok ⟨[], start⟩
  | line :: lines =>
    match afterSlashes? line with
    | none => .ok ⟨[], start⟩
    | some rest =>
      if indentedBy 2 rest then
        (readMore (Text.byteWidth (rest.takeWhile Text.isBlank)) (start + 1) lines).map
          (cons (String.ofList (Text.trimChars rest)))
      else .ok ⟨[], start⟩

end Body

end ScadManual
