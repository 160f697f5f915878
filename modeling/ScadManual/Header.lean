import ScadManual.Text.Blank
import ScadManual.Text.Search

/-!
# Header lines

A block of documentation starts with a header line

    // Title(metadata): subtitle

A title is one or two words that start with a capital, joined by one space.  The metadata in parentheses is
optional and ends at the first closing parenthesis.  The subtitle is optional; when it is there a space
divides it from the colon, and the blanks around it do not belong to it.  The grammar is deterministic, so
reading is a chain of four readers, each of which returns what it leaves over.
-/

namespace ScadManual

/-- What a header line says. -/
structure Header where
  title : String
  metadata : String
  subtitle : String
deriving DecidableEq, Repr, Inhabited

namespace Header

/-- Characters of a title word after its first: letters, digits, `_`, `&` and `-`. -/
def isTitleChar (c : Char) : Bool :=
  Text.isAsciiAlnum c || c == '_' || c == '&' || c == '-'

/-- A title word and what follows it. -/
def word? : List Char → Option (List Char × List Char)
  | [] => none
  | c :: cs =>
    if c.isUpper then some (c :: cs.takeWhile isTitleChar, cs.dropWhile isTitleChar) else none

/-- A title, which is one word or two with a space between, and what follows it. -/
def title? (cs : List Char) : Option (List Char × List Char) :=
  match word? cs with
  | none => none
  | some (first, rest) =>
    match rest with
    | ' ' :: more =>
      match word? more with
      | some (second, rest') => some (first ++ ' ' :: second, rest')
      | none => some (first, rest)
    | _ => some (first, rest)

/-- The metadata, empty when there are no parentheses, and what follows it. -/
def metadata? : List Char → Option (List Char × List Char)
  | '(' :: cs => Text.cutChars? ')' cs
  | cs => some ([], cs)

/-- The subtitle, from the colon to the end of the line. -/
def subtitle? : List Char → Option (List Char)
  | [':'] => some []
  | ':' :: ' ' :: cs => if '\n' ∈ cs then none else some (Text.trimChars cs)
  | _ => none

/-- Reads the characters of a header line. -/
def ofChars? (cs : List Char) : Option Header :=
  match cs with
  | '/' :: '/' :: ' ' :: cs =>
    match title? cs with
    | none => none
    | some (title, rest) =>
      match metadata? rest with
      | none => none
      | some (info, rest) =>
        match subtitle? rest with
        | none => none
        | some subtitle =>
          some ⟨String.ofList title, String.ofList info, String.ofList subtitle⟩
  | _ => none

/-- Reads a header line. -/
def parse? (line : String) : Option Header :=
  ofChars? line.toList

end Header

/-- What kind of line a line is. -/
inductive LineClass where
  | header (h : Header)
  /-- A comment that is no header. -/
  | comment
  /-- Program text, blank lines and everything else. -/
  | code
deriving DecidableEq, Repr

/-- Does the line start with the two slashes of a comment? -/
def isComment (line : String) : Bool :=
  match line.toList with
  | '/' :: '/' :: _ => true
  | _ => false

/-- Is the line a header line? -/
def isHeader (line : String) : Bool :=
  (Header.parse? line).isSome

/-- Tells the three kinds of lines apart. -/
def LineClass.of (line : String) : LineClass :=
  match Header.parse? line with
  | some h => .header h
  | none => if isComment line then .comment else .code

end ScadManual
