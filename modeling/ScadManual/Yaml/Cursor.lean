import ScadManual.Text.Search

/-!
# Positions in a YAML text

What is still to be read, and where that is.  Columns decide the nesting of blocks, so every step keeps
count of them.
-/

namespace ScadManual.Yaml

/-- Does the character end a line? -/
def isBreak (c : Char) : Bool :=
  c = '\n' || c = '\r' || [0x85, 0x2028, 0x2029].contains c.toNat

/-- Is the character a space or a tab? -/
def isBlank (c : Char) : Bool := c = ' ' || c = '\t'

/-- Is there nothing, a blank or the end of a line in front? -/
def atGap : List Char → Bool
  | [] => true
  | c :: _ => isBlank c || isBreak c

/-- Can the character be part of the name of an anchor? -/
def isNameChar (c : Char) : Bool := Text.isAsciiAlnum c || c = '_' || c = '-'

/-- Is the character one that a text may hold?  Control characters are not, but for tabs and line ends. -/
def isAllowed (c : Char) : Bool :=
  let n := c.toNat
  c = '\t' || c = '\n' || c = '\r' || (0x20 ≤ n && n ≤ 0x7E) || n = 0x85 || (0xA0 ≤ n && n ≤ 0xD7FF) ||
    (0xE000 ≤ n && n ≤ 0xFFFD && n ≠ 0xFEFF) || 0x10000 ≤ n

/-- A position: the text from there on, the numbers of its line and column, and how much was read. -/
structure Cursor where
  rest : List Char
  line : Nat
  column : Nat
  index : Nat
deriving Repr

namespace Cursor

/-- The start of a text. -/
def start (cs : List Char) : Cursor := ⟨cs, 0, 0, 0⟩

/-- Passes characters of the line. -/
def skip (c : Cursor) (count : Nat) : Cursor :=
  ⟨c.rest.drop count, c.line, c.column + count, c.index + count⟩

/-- Passes the end of the line, when the position is there. -/
def skipBreak (c : Cursor) : Cursor :=
  match c.rest with
  | '\r' :: '\n' :: rest => ⟨rest, c.line + 1, 0, c.index + 2⟩
  | b :: rest => if isBreak b then ⟨rest, c.line + 1, 0, c.index + 1⟩ else c
  | [] => c

/-- How the end of the line at the position reads: most line ends read as line feeds. -/
def breakText (c : Cursor) : List Char :=
  match c.rest with
  | b :: _ =>
    if b.toNat = 0x2028 || b.toNat = 0x2029 then [b] else if isBreak b then ['\n'] else []
  | [] => []

/-- Passes the characters that satisfy a test, which must not hold for line ends. -/
def skipWhile (c : Cursor) (test : Char → Bool) : Cursor :=
  c.skip (c.rest.takeWhile test).length

/-- Passes the rest of the line. -/
def skipLine (c : Cursor) : Cursor := c.skipWhile (!isBreak ·)

/-- Passes a comment, when there is one. -/
def skipComment (c : Cursor) : Cursor :=
  if c.rest.head? = some '#' then c.skipLine else c

/-- Passes blanks and a comment up to the end of the line; nothing else may stand there. -/
def endLine? (c : Cursor) : Option Cursor :=
  let c := (c.skipWhile isBlank).skipComment
  match c.rest with
  | [] => some c
  | b :: _ => if isBreak b then some c.skipBreak else none

/-- Does a mark of three characters, as between documents, stand here? -/
def atMark (c : Cursor) (char : Char) : Bool :=
  c.column = 0 &&
    match c.rest with
    | a :: b :: d :: rest => a = char && b = char && d = char && atGap rest
    | _ => false

/-- Does a document begin or end here? -/
def atDocumentMark (c : Cursor) : Bool := c.atMark '-' || c.atMark '.'

end Cursor

/-! ## Gaps -/

/-- Blanks and line ends between two pieces of a scalar: the blanks before the first line end, and the line
ends. -/
structure Gap where
  blanks : List Char
  breaks : List Char

namespace Gap

/-- What a gap reads as: a single line end is a space, and of more the first is dropped. -/
def text (g : Gap) : List Char :=
  match g.breaks with
  | [] => g.blanks
  | ['\n'] => [' ']
  | '\n' :: more => more
  | breaks => breaks

/-- Is there a line end in the gap? -/
def hasBreak (g : Gap) : Bool := !g.breaks.isEmpty

end Gap

/-- Reads a gap.  On its later lines a tab must not stand before the column `margin`; `fuel` bounds its
length. -/
def gap? (margin : Nat) : Nat → Gap → Cursor → Option (Gap × Cursor)
  | 0, g, c => some (g, c)
  | fuel + 1, g, c =>
    match c.rest with
    | [] => some (g, c)
    | b :: _ =>
      if isBlank b then
        if g.hasBreak then
          if b = '\t' && c.column < margin then none else gap? margin fuel g (c.skip 1)
        else gap? margin fuel { g with blanks := g.blanks ++ [b] } (c.skip 1)
      else if isBreak b then
        gap? margin fuel { g with breaks := g.breaks ++ c.breakText } c.skipBreak
      else some (g, c)

end ScadManual.Yaml
