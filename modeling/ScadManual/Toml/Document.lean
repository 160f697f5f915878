import ScadManual.Toml.Quoted

/-!
# TOML documents

A document is a list of lines: headers that open a table, entries of the table opened last, comments and
empty lines.  `parse?` gives the entries of the whole document, or nothing when it is malformed.
-/

namespace ScadManual.Toml

/-! ## Keys -/

/-- Can the character stand in a key without quotes? -/
def isKeyChar (c : Char) : Bool := Text.isAsciiAlnum c || c = '_' || c = '-'

/-- Drops spaces and tabs in front. -/
def skipSpace (cs : List Char) : List Char := cs.dropWhile isSpace

/-- One part of a key. -/
def keyPart? (cs : List Char) : Option (String × List Char) :=
  let bare := cs.takeWhile isKeyChar
  if bare.isEmpty then oneLine? cs else some (String.ofList bare, cs.drop bare.length)

/-- The parts of a key, with spaces around its dots: the parts before the last, the last, and what follows;
`fuel` bounds their number. -/
def key? : Nat → List Char → Option ((List String × String) × List Char)
  | 0, _ => none
  | fuel + 1, cs =>
    (keyPart? (skipSpace cs)).bind fun (part, rest) =>
      match skipSpace rest with
      | '.' :: rest => (key? fuel rest).map fun ((parts, last), rest) => ((part :: parts, last), rest)
      | rest => some (([], part), rest)

/-! ## Values -/

/-- What follows a comment, which may be empty.  The comment ends with its line. -/
def afterComment? (cs : List Char) : Option (List Char) :=
  match cs with
  | '#' :: rest =>
    let after := rest.dropWhile isPlain
    if after.isEmpty || (afterLine? after).isSome then some after else none
  | cs => some cs

/-- Drops spaces, tabs, line ends and comments in front. -/
def skipLines? : Nat → List Char → Option (List Char)
  | 0, _ => none
  | fuel + 1, cs =>
    match skipSpace cs with
    | '#' :: rest => (afterComment? ('#' :: rest)).bind (skipLines? fuel)
    | cs =>
      match afterLine? cs with
      | some rest => skipLines? fuel rest
      | none => some cs

/-- Does the character end a value without quotes and brackets? -/
def endsScalar (c : Char) : Bool :=
  isSpace c || [',', ']', '\x7d', '#', '=', '[', '\x7b', '"', '\x27', '\n', '\r'].contains c

/-- The text of a value without quotes and brackets; a space may stand between a date and a time. -/
def scalarText (cs : List Char) : List Char :=
  let first := cs.takeWhile (!endsScalar ·)
  if isDate first then
    match cs.drop first.length with
    | ' ' :: c :: rest =>
      if c.isDigit then first ++ ' ' :: (c :: rest).takeWhile (!endsScalar ·) else first
    | _ => first
  else first

mutual

/-- A value and what follows it; `fuel` bounds the number of values inside. -/
def value? : Nat → List Char → Option (Value × List Char)
  | 0, _ => none
  | fuel + 1, cs =>
    match cs with
    | '[' :: rest => (items? fuel rest).map fun (items, rest) => (.array items, rest)
    | '\x7b' :: rest => (fields? fuel [] rest).map fun (entries, rest) => (.table .inlined entries, rest)
    | cs =>
      match cs.head? with
      | some '"' => (quoted? cs).map fun (s, rest) => (.string s, rest)
      | some '\x27' => (quoted? cs).map fun (s, rest) => (.string s, rest)
      | _ =>
        let text := scalarText cs
        (scalar? text).map fun v => (v, cs.drop text.length)

/-- The items of an array, behind its opening bracket. -/
def items? : Nat → List Char → Option (List Value × List Char)
  | 0, _ => none
  | fuel + 1, cs =>
    (skipLines? (cs.length + 1) cs).bind fun cs =>
      match cs with
      | ']' :: rest => some ([], rest)
      | cs =>
        (value? fuel cs).bind fun (v, rest) =>
          (skipLines? (rest.length + 1) rest).bind fun rest =>
            match rest with
            | ',' :: rest => (items? fuel rest).map fun (vs, rest) => (v :: vs, rest)
            | ']' :: rest => some ([v], rest)
            | _ => none

/-- The entries of an inline table, behind its opening brace. -/
def fields? : Nat → Entries → List Char → Option (Entries × List Char)
  | 0, _, _ => none
  | fuel + 1, entries, cs =>
    (skipLines? (cs.length + 1) cs).bind fun cs =>
      match cs with
      | '\x7d' :: rest => some (entries, rest)
      | cs =>
        (key? (cs.length + 1) cs).bind fun ((path, key), rest) =>
          match rest with
          | '=' :: rest =>
            (value? fuel (skipSpace rest)).bind fun (v, rest) =>
              (entries.insertDotted path key v .inlined).bind fun entries =>
                (skipLines? (rest.length + 1) rest).bind fun rest =>
                  match rest with
                  | ',' :: rest => fields? fuel entries rest
                  | '\x7d' :: rest => some (entries, rest)
                  | _ => none
          | _ => none

end

/-! ## Lines -/

/-- A line that says something. -/
inductive Line where
  | table (path : List String) (key : String)
  | nextTable (path : List String) (key : String)
  | entry (path : List String) (key : String) (value : Value)

/-- A header behind its opening brackets, and what follows `closing`. -/
def header? (closing : List Char) (cs : List Char) : Option ((List String × String) × List Char) :=
  (key? (cs.length + 1) cs).bind fun (key, rest) =>
    (closing.isPrefixOf? rest).map fun rest => (key, rest)

/-- A line that says something, and what follows it on the line. -/
def line? (cs : List Char) : Option (Line × List Char) :=
  match cs with
  | '[' :: '[' :: rest =>
    (header? [']', ']'] rest).map fun ((path, key), rest) => (.nextTable path key, rest)
  | '[' :: rest => (header? [']'] rest).map fun ((path, key), rest) => (.table path key, rest)
  | cs =>
    (key? (cs.length + 1) cs).bind fun ((path, key), rest) =>
      match rest with
      | '=' :: rest =>
        (value? (rest.length + 1) (skipSpace rest)).map fun (v, rest) => (.entry path key v, rest)
      | _ => none

/-- What follows the end of a line, which may have a comment. -/
def endLine? (cs : List Char) : Option (List Char) :=
  (afterComment? (skipSpace cs)).bind fun rest =>
    if rest.isEmpty then some [] else afterLine? rest

/-- The lines of a document; `fuel` bounds their number. -/
def documentLines? : Nat → List Char → Option (List Line)
  | 0, _ => none
  | fuel + 1, cs =>
    (skipLines? (cs.length + 1) cs).bind fun cs =>
      if cs.isEmpty then some []
      else
        (line? cs).bind fun (line, rest) =>
          (endLine? rest).bind fun rest => (documentLines? fuel rest).map (line :: ·)

/-- Adds lines to a document; `header` is the path of the table opened last. -/
def assemble? (header : List String) (entries : Entries) : List Line → Option Entries
  | [] => some entries
  | .table path key :: lines =>
    (entries.openTable path key).bind fun entries => assemble? (path ++ [key]) entries lines
  | .nextTable path key :: lines =>
    (entries.openNext path key).bind fun entries => assemble? (path ++ [key]) entries lines
  | .entry path key value :: lines =>
    (entries.insertBelow header path key value).bind fun entries => assemble? header entries lines

/-- The byte order mark that may stand in front of a text. -/
def byteOrderMark : Char := Char.ofNat 0xFEFF

/-- The entries of a document; none when it is malformed. -/
def parse? (text : String) : Option Entries :=
  let cs := text.toList
  let cs := if cs.head? = some byteOrderMark then cs.drop 1 else cs
  (documentLines? (cs.length + 1) cs).bind (assemble? [] [])

end ScadManual.Toml
