import ScadManual.Yaml.Scalar

/-!
# YAML tokens

A text as marks and scalars, in which the nesting of blocks by their columns has become explicit: a mark
opens each block and another closes it.  What turns out to be a key only by the colon behind it gets its
mark afterwards, at the place where it began.
-/

namespace ScadManual.Yaml

/-- How a scalar is written. -/
inductive Style where
  | plain
  | quoted
  | literal
  | folded
deriving DecidableEq, Repr

/-- A mark or a scalar. -/
inductive Token where
  /-- The version that a document says it is written in. -/
  | version (major minor : Nat)
  /-- A short form for tags. -/
  | tagHandle (handle start : String)
  | documentStart
  | documentEnd
  | sequenceStart
  | mappingStart
  | blockEnd
  | bracket
  | bracketEnd
  | brace
  | braceEnd
  | comma
  /-- The dash in front of an item. -/
  | dash
  | key
  | value
  | reference (name : String)
  | anchor (name : String)
  | tag (handle suffix : String)
  | scalar (style : Style) (text : String)
deriving DecidableEq, Repr

/-- Something that may turn out to be a key: the number of its first token and where it stands.  It must
turn out to be one when the block that it stands in allows nothing else. -/
structure KeyCandidate where
  token : Nat
  line : Nat
  column : Nat
  index : Nat
  required : Bool

/-- The longest key, in characters. -/
def maxKey : Nat := 1024

/-- What is known while tokens are made. -/
structure Scan where
  cursor : Cursor
  tokens : Array Token
  /-- The candidates for a key, for the whole and for every open bracket, the innermost first. -/
  keys : List (Option KeyCandidate)
  /-- The column of the innermost block, and those around it. -/
  indent : Int
  indents : List Int
  /-- May a key begin here? -/
  keyAllowed : Bool

namespace Scan

/-- The start of a text. -/
def start (cs : List Char) : Scan := ⟨Cursor.start cs, #[], [none], -1, [], true⟩

/-- Are there open brackets? -/
def inFlow (s : Scan) : Bool := s.keys.length > 1

/-- Adds a token. -/
def emit (s : Scan) (t : Token) : Scan := { s with tokens := s.tokens.push t }

/-- Moves to a position. -/
def moveTo (s : Scan) (c : Cursor) : Scan := { s with cursor := c }

/-! ## Keys -/

/-- Gives up the innermost candidate, which must not be one that has to be a key. -/
def dropKey? (s : Scan) : Option Scan :=
  match s.keys with
  | some k :: keys => if k.required then none else some { s with keys := none :: keys }
  | _ => some s

/-- Notes that a key may begin here. -/
def noteKey? (s : Scan) : Option Scan :=
  if s.keyAllowed then
    s.dropKey?.map fun s =>
      let c := s.cursor
      let required := !s.inFlow && s.indent = c.column
      { s with keys := some ⟨s.tokens.size, c.line, c.column, c.index, required⟩ :: s.keys.drop 1 }
  else some s

/-- Gives up candidates from lines before and those that are too long. -/
def dropStale? (s : Scan) : Option Scan :=
  let isStale (k : KeyCandidate) : Bool :=
    k.line < s.cursor.line || k.index + maxKey < s.cursor.index
  if s.keys.any (fun k => k.any fun k => isStale k && k.required) then none
  else some { s with keys := s.keys.map fun k => k.filter fun k => !isStale k }

/-! ## Blocks -/

/-- Opens a block at a column, when it is deeper than the innermost one; `place` is the number of the token
in front of which its mark is put. -/
def openBlock (s : Scan) (column place : Nat) (mark : Token) : Scan :=
  if !s.inFlow && s.indent < column then
    { s with
      indents := s.indent :: s.indents
      indent := column
      tokens := s.tokens.take place ++ #[mark] ++ s.tokens.drop place }
  else s

/-- Closes the blocks that are deeper than a column. -/
def closeBlocks (s : Scan) (column : Int) : List Int → Scan
  | [] => s
  | outer :: indents =>
    if s.indent > column then
      closeBlocks { s.emit .blockEnd with indent := outer, indents } column indents
    else s

/-- Closes the blocks that are deeper than a column, outside of brackets. -/
def unroll (s : Scan) (column : Int) : Scan :=
  if s.inFlow then s else s.closeBlocks column s.indents

/-! ## Marks -/

/-- A mark of so many characters. -/
def mark (s : Scan) (t : Token) (length : Nat) : Scan :=
  (s.emit t).moveTo (s.cursor.skip length)

/-- A mark between documents. -/
def documentMark? (s : Scan) (t : Token) : Option Scan :=
  (s.unroll (-1)).dropKey?.map fun s => { s with keyAllowed := false }.mark t 3

/-- An opening bracket. -/
def openFlow? (s : Scan) (t : Token) : Option Scan :=
  s.noteKey?.map fun s => { s with keys := none :: s.keys, keyAllowed := true }.mark t 1

/-- A closing bracket. -/
def closeFlow? (s : Scan) (t : Token) : Option Scan :=
  s.dropKey?.map fun s =>
    let keys := if s.inFlow then s.keys.drop 1 else s.keys
    { s with keys, keyAllowed := false }.mark t 1

/-- A comma. -/
def comma? (s : Scan) : Option Scan :=
  s.dropKey?.map fun s => { s with keyAllowed := true }.mark .comma 1

/-- The dash in front of an item. -/
def dash? (s : Scan) : Option Scan :=
  if !s.inFlow && !s.keyAllowed then none
  else
    (s.openBlock s.cursor.column s.tokens.size .sequenceStart).dropKey?.map fun s =>
      { s with keyAllowed := true }.mark .dash 1

/-- The mark in front of a key. -/
def keyMark? (s : Scan) : Option Scan :=
  if !s.inFlow && !s.keyAllowed then none
  else
    (s.openBlock s.cursor.column s.tokens.size .mappingStart).dropKey?.map fun s =>
      { s with keyAllowed := !s.inFlow }.mark .key 1

/-- The colon behind a key. -/
def valueMark? (s : Scan) : Option Scan :=
  match s.keys with
  | some k :: keys =>
    let tokens := s.tokens.take k.token ++ #[.key] ++ s.tokens.drop k.token
    let s := { s with keys := none :: keys, tokens }.openBlock k.column k.token .mappingStart
    some ({ s with keyAllowed := false }.mark .value 1)
  | _ =>
    if !s.inFlow && !s.keyAllowed then none
    else
      let s := s.openBlock s.cursor.column s.tokens.size .mappingStart
      some ({ s with keyAllowed := !s.inFlow }.mark .value 1)

/-! ## Names and tags -/

/-- May an anchor's name end in front of these characters? -/
def endsName (cs : List Char) : Bool :=
  atGap cs || (cs.head?.any fun c => ['?', ':', ',', ']', '\x7d', '%', '@', '\x60'].contains c)

/-- An anchor or a reference to one. -/
def name? (s : Scan) (make : String → Token) : Option Scan :=
  s.noteKey?.bind fun s =>
    let name := (s.cursor.rest.drop 1).takeWhile isNameChar
    let c := s.cursor.skip (name.length + 1)
    if name.isEmpty || !endsName c.rest then none
    else some (({ s with keyAllowed := false }.emit (make (String.ofList name))).moveTo c)

/-- Can the character be part of a tag? -/
def isTagChar (c : Char) : Bool :=
  isNameChar c || (";/?:@&=+$.%!~*\x27()".toList).contains c

/-- The parts of a tag that begins here, its length included: a short form and what follows it. -/
def tagParts? (cs : List Char) : Option (String × String × Nat) :=
  match cs with
  | '!' :: '<' :: rest =>
    let uri := rest.takeWhile fun c => isTagChar c || [',', '[', ']'].contains c
    if uri.isEmpty || (rest.drop uri.length).head? ≠ some '>' then none
    else some ("", String.ofList uri, uri.length + 3)
  | '!' :: rest =>
    let word := rest.takeWhile isNameChar
    if (rest.drop word.length).head? = some '!' then
      let suffix := (rest.drop (word.length + 1)).takeWhile isTagChar
      if suffix.isEmpty then none
      else
        some ("!" ++ String.ofList word ++ "!", String.ofList suffix, word.length + suffix.length + 2)
    else
      let suffix := rest.takeWhile isTagChar
      if suffix.isEmpty then some ("", "!", 1) else some ("!", String.ofList suffix, suffix.length + 1)
  | _ => none

/-- A tag. -/
def tag? (s : Scan) : Option Scan :=
  s.noteKey?.bind fun s =>
    (tagParts? s.cursor.rest).bind fun (handle, suffix, length) =>
      let c := s.cursor.skip length
      if atGap c.rest || (s.inFlow && c.rest.head? = some ',') then
        some (({ s with keyAllowed := false }.emit (.tag handle suffix)).moveTo c)
      else none

/-! ## Directives -/

/-- A version: two numbers with a dot between them. -/
def version? (c : Cursor) : Option (Token × Cursor) :=
  let major := c.rest.takeWhile Char.isDigit
  let rest := c.rest.drop major.length
  let minor := (rest.drop 1).takeWhile Char.isDigit
  if major.isEmpty || minor.isEmpty || rest.head? ≠ some '.' || 9 < major.length || 9 < minor.length then
    none
  else
    some (.version (Text.digitsValue major) (Text.digitsValue minor),
      c.skip (major.length + minor.length + 1))

/-- A short form for tags and what it stands for. -/
def tagHandle? (c : Cursor) : Option (Token × Cursor) :=
  let handle := c.rest.takeWhile (fun ch => ch = '!' || isNameChar ch)
  let rest := c.rest.drop handle.length
  let blanks := rest.takeWhile isBlank
  let start := (rest.drop blanks.length).takeWhile fun ch => isTagChar ch || [',', '[', ']'].contains ch
  let after := c.skip (handle.length + blanks.length + start.length)
  let inner := (handle.drop 1).dropLast
  if handle.head? ≠ some '!' || handle.getLast? ≠ some '!' || inner.contains '!' || blanks.isEmpty ||
      start.isEmpty || !atGap after.rest then none
  else some (.tagHandle (String.ofList handle) (String.ofList start), after)

/-- A directive: a version, a short form for tags, or something that is passed over. -/
def directive? (s : Scan) : Option Scan :=
  (s.unroll (-1)).dropKey?.bind fun s =>
    let s := { s with keyAllowed := false }
    let name := (s.cursor.rest.drop 1).takeWhile isNameChar
    let c := s.cursor.skip (name.length + 1)
    if name.isEmpty || !atGap c.rest then none
    else
      let argument := c.skipWhile isBlank
      if name = "YAML".toList then
        (version? argument).bind fun (t, c) => c.endLine?.map fun c => (s.emit t).moveTo c
      else if name = "TAG".toList then
        (tagHandle? argument).bind fun (t, c) => c.endLine?.map fun c => (s.emit t).moveTo c
      else some (s.moveTo c.skipLine.skipBreak)

/-! ## Scalars -/

/-- A block of lines. -/
def blockScalar? (s : Scan) (literal : Bool) : Option Scan :=
  s.dropKey?.bind fun s =>
    (block? literal s.indent (s.cursor.skip 1)).map fun (text, c) =>
      let style := if literal then Style.literal else Style.folded
      ({ s with keyAllowed := true }.emit (.scalar style (String.ofList text))).moveTo c

/-- A scalar between quotes. -/
def quotedScalar? (s : Scan) (double : Bool) : Option Scan :=
  s.noteKey?.bind fun s =>
    let c := s.cursor.skip 1
    (quoted? double (c.rest.length + 1) c).map fun (text, c) =>
      ({ s with keyAllowed := false }.emit (.scalar .quoted (String.ofList text))).moveTo c

/-- A plain scalar. -/
def plainScalar? (s : Scan) : Option Scan :=
  s.noteKey?.bind fun s =>
    let c := s.cursor
    (plain? s.inFlow (s.indent + 1).toNat (c.rest.length + 1) ⟨[], []⟩ c).map fun p =>
      ({ s with keyAllowed := p.lineEnded }.emit (.scalar .plain (String.ofList p.text))).moveTo p.after

/-- Can a plain scalar begin with these characters? -/
def startsPlain (inFlow : Bool) : List Char → Bool
  | [] => false
  | c :: rest =>
    if c = '-' then !(rest.head?.any isBlank)
    else if c = '?' || c = ':' then !inFlow && !atGap rest
    else !isBlank c && !([',', '[', ']', '\x7b', '\x7d', '#', '&', '*', '!', '|', '>', '\x27', '"', '%', '@',
      '\x60'].contains c)

/-! ## The next token -/

/-- Passes blanks, comments and line ends up to the next token.  Outside of brackets a new line may begin
with a key, and then no tab may stand before it. -/
def toToken : Nat → Scan → Scan
  | 0, s => s
  | fuel + 1, s =>
    let c := s.cursor
    let c := c.skipWhile fun ch => ch = ' ' || (ch = '\t' && (s.inFlow || !s.keyAllowed))
    let c := c.skipComment
    match c.rest with
    | b :: _ =>
      if isBreak b then
        toToken fuel { s with cursor := c.skipBreak, keyAllowed := s.keyAllowed || !s.inFlow }
      else s.moveTo c
    | [] => s.moveTo c

/-- Reads the token at the position. -/
def token? (s : Scan) : Option Scan :=
  let c := s.cursor
  match c.rest with
  | [] => none
  | ch :: rest =>
    if c.column = 0 && ch = '%' then s.directive?
    else if c.atMark '-' then s.documentMark? .documentStart
    else if c.atMark '.' then s.documentMark? .documentEnd
    else if ch = '[' then s.openFlow? .bracket
    else if ch = '\x7b' then s.openFlow? .brace
    else if ch = ']' then s.closeFlow? .bracketEnd
    else if ch = '\x7d' then s.closeFlow? .braceEnd
    else if ch = ',' then s.comma?
    else if ch = '-' && atGap rest then s.dash?
    else if ch = '?' && (s.inFlow || atGap rest) then s.keyMark?
    else if ch = ':' && (s.inFlow || atGap rest) then s.valueMark?
    else if ch = '*' then s.name? .reference
    else if ch = '&' then s.name? .anchor
    else if ch = '!' then s.tag?
    else if ch = '|' && !s.inFlow then s.blockScalar? true
    else if ch = '>' && !s.inFlow then s.blockScalar? false
    else if ch = '\x27' then s.quotedScalar? false
    else if ch = '"' then s.quotedScalar? true
    else if startsPlain s.inFlow c.rest then s.plainScalar?
    else none

/-- Reads all tokens; `fuel` bounds their number. -/
def run? : Nat → Scan → Option Scan
  | 0, _ => none
  | fuel + 1, s =>
    (toToken (s.cursor.rest.length + 1) s).dropStale?.bind fun s =>
      if s.cursor.rest.isEmpty then (s.unroll (-1)).dropKey?
      else (s.unroll s.cursor.column).token?.bind (run? fuel)

end Scan

/-- The tokens of a text; none when it is malformed. -/
def tokens? (text : String) : Option (List Token) :=
  let cs := text.toList
  let cs := if cs.head? = some (Char.ofNat 0xFEFF) then cs.drop 1 else cs
  if cs.all isAllowed then
    (Scan.run? (cs.length + 1) (Scan.start cs)).map (·.tokens.toList)
  else none

end ScadManual.Yaml
