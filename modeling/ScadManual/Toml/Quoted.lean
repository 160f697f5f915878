import ScadManual.Toml.Scalar

/-!
# TOML strings

Strings stand between quotes, with escapes, or between apostrophes, as they are; three of either allow line
feeds.  A reader starts behind the opening quotes and gives the string and what follows its closing quotes.
-/

namespace ScadManual.Toml

/-- Is the character one that may stand in a string or a comment?  Control characters may not, but for the
tab. -/
def isPlain (c : Char) : Bool :=
  c = '\t' || (c.toNat ≥ 0x20 && c.toNat ≠ 0x7F)

/-- Is the character a space or a tab? -/
def isSpace (c : Char) : Bool := c = ' ' || c = '\t'

/-- The escapes of one character, and what they stand for. -/
def simpleEscapes : List (Char × Char) :=
  [('b', '\x08'), ('t', '\t'), ('n', '\n'), ('f', '\x0c'), ('r', '\r'), ('e', '\x1b'), ('"', '"'),
   ('\\', '\\')]

/-- The character of an escape, without its backslash, and what follows. -/
def escape? : List Char → Option (Char × List Char)
  | [] => none
  | 'u' :: rest => Text.numberedChar? 4 rest
  | 'U' :: rest => Text.numberedChar? 8 rest
  | 'x' :: rest => Text.numberedChar? 2 rest
  | c :: rest => (simpleEscapes.lookup c).map fun e => (e, rest)

/-- A string between single quotes; `fuel` bounds its length. -/
def basic? : Nat → List Char → Option (List Char × List Char)
  | 0, _ => none
  | _ + 1, [] => none
  | fuel + 1, c :: rest =>
    if c = '"' then some ([], rest)
    else if c = '\\' then
      (escape? rest).bind fun (e, rest) => (basic? fuel rest).map fun (s, rest) => (e :: s, rest)
    else if isPlain c then (basic? fuel rest).map fun (s, rest) => (c :: s, rest)
    else none

/-- A string between apostrophes. -/
def literal? : List Char → Option (List Char × List Char)
  | [] => none
  | c :: rest =>
    if c = '\x27' then some ([], rest)
    else if isPlain c then (literal? rest).map fun (s, rest) => (c :: s, rest)
    else none

/-- What follows a line end, when there is one. -/
def afterLine? : List Char → Option (List Char)
  | '\n' :: rest => some rest
  | '\r' :: '\n' :: rest => some rest
  | _ => none

/-- Drops one line end in front, when there is one. -/
def dropLine (cs : List Char) : List Char := (afterLine? cs).getD cs

/-- Drops spaces, tabs and line ends in front; `fuel` bounds their number. -/
def dropBlank : Nat → List Char → List Char
  | 0, cs => cs
  | fuel + 1, cs =>
    match afterLine? cs with
    | some rest => dropBlank fuel rest
    | none =>
      match cs with
      | c :: rest => if isSpace c then dropBlank fuel rest else cs
      | [] => []

/-- What follows a backslash at the end of a line: the first character that is not blank. -/
def afterJoin? (cs : List Char) : Option (List Char) :=
  (afterLine? (cs.dropWhile isSpace)).map fun rest => dropBlank rest.length rest

/-- The closing quotes of a string of many lines: up to two more than three belong to the string. -/
def closing? (quote : Char) (cs : List Char) : Option (List Char × List Char) :=
  let quotes := cs.takeWhile (· == quote)
  if 3 ≤ quotes.length then
    let inside := min 2 (quotes.length - 3)
    some (List.replicate inside quote, cs.drop (inside + 3))
  else none

/-- A string of many lines; `escapes` tells whether backslashes are escapes. -/
def lines? (quote : Char) (escapes : Bool) : Nat → List Char → Option (List Char × List Char)
  | 0, _ => none
  | fuel + 1, cs =>
    match closing? quote cs with
    | some found => some found
    | none =>
      let further (s : List Char) (rest : List Char) : Option (List Char × List Char) :=
        (lines? quote escapes fuel rest).map fun (tail, rest) => (s ++ tail, rest)
      match afterLine? cs with
      | some rest => further ['\n'] rest
      | none =>
        match cs with
        | [] => none
        | c :: rest =>
          if escapes && c = '\\' then
            match afterJoin? rest with
            | some rest => further [] rest
            | none => (escape? rest).bind fun (e, rest) => further [e] rest
          else if isPlain c then further [c] rest
          else none

/-- A string on one line, with its opening quote. -/
def oneLine? (cs : List Char) : Option (String × List Char) :=
  match cs with
  | '"' :: rest => (basic? cs.length rest).map fun (s, rest) => (String.ofList s, rest)
  | '\x27' :: rest => (literal? rest).map fun (s, rest) => (String.ofList s, rest)
  | _ => none

/-- A string, with its opening quotes. -/
def quoted? (cs : List Char) : Option (String × List Char) :=
  match cs with
  | '"' :: '"' :: '"' :: rest =>
    (lines? '"' true cs.length (dropLine rest)).map fun (s, rest) => (String.ofList s, rest)
  | '\x27' :: '\x27' :: '\x27' :: rest =>
    (lines? '\x27' false cs.length (dropLine rest)).map fun (s, rest) => (String.ofList s, rest)
  | cs => oneLine? cs

end ScadManual.Toml
