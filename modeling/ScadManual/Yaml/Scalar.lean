import ScadManual.Text.Numeral
import ScadManual.Yaml.Cursor

/-!
# YAML scalars

The ways to write a text: plain, between quotes or apostrophes, or as a block of lines.  In all of them line
ends inside fold into spaces, but for literal blocks.
-/

namespace ScadManual.Yaml

/-! ## Plain scalars -/

/-- The characters that mark collections inside brackets and braces. -/
def flowMarks : List Char := [',', '[', ']', '\x7b', '\x7d']

/-- Does a plain scalar end in front of these characters? -/
def endsPlain (inFlow : Bool) : List Char → Bool
  | [] => true
  | c :: rest =>
    isBlank c || isBreak c || (c = ':' && atGap rest) || (inFlow && flowMarks.contains c)

/-- Is this a colon that may not stand in a plain scalar inside brackets? -/
def isStrayColon : List Char → Bool
  | ':' :: c :: _ => c = '?' || flowMarks.contains c
  | _ => false

/-- The characters of a plain scalar up to the next blank. -/
def plainRun? (inFlow : Bool) : List Char → Option (List Char)
  | [] => some []
  | c :: rest =>
    if isBlank c || isBreak c then some []
    else if inFlow && isStrayColon (c :: rest) then none
    else if endsPlain inFlow (c :: rest) then some []
    else (plainRun? inFlow rest).map (c :: ·)

/-- A scalar that was read: its text, whether a line ended behind it, and what follows. -/
structure Plain where
  text : List Char
  lineEnded : Bool
  after : Cursor

/-- A plain scalar; `before` is what the gap in front of it reads as, and its further lines are indented by
`margin`. -/
def plain? (inFlow : Bool) (margin : Nat) : Nat → Gap → Cursor → Option Plain
  | 0, _, _ => none
  | fuel + 1, before, c =>
    if c.atDocumentMark || c.rest.head? = some '#' then some ⟨[], before.hasBreak, c⟩
    else
      match plainRun? inFlow c.rest with
      | none => none
      | some run =>
        if run.isEmpty then some ⟨[], before.hasBreak, c⟩
        else
          let text := before.text ++ run
          let c := c.skip run.length
          match gap? margin c.rest.length ⟨[], []⟩ c with
          | none => none
          | some (g, after) =>
            if g.blanks.isEmpty && !g.hasBreak then some ⟨text, false, c⟩
            else if !inFlow && after.column < margin then some ⟨text, g.hasBreak, after⟩
            else
              (plain? inFlow margin fuel g after).map fun p => { p with text := text ++ p.text }

/-! ## Quoted scalars -/

/-- The escapes of one character, and the numbers of what they stand for. -/
def escapes : List (Char × Nat) :=
  [('0', 0), ('a', 7), ('b', 8), ('t', 9), ('\t', 9), ('n', 10), ('v', 11), ('f', 12), ('r', 13),
   ('e', 27), (' ', 32), ('"', 34), ('/', 47), ('\\', 92), ('N', 0x85), ('_', 0xA0), ('L', 0x2028),
   ('P', 0x2029)]

/-- The number of digits that follow an escape by number. -/
def escapeDigits : List (Char × Nat) := [('x', 2), ('u', 4), ('U', 8)]

/-- The character of an escape without its backslash, and how long the escape is. -/
def escape? : List Char → Option (Char × Nat)
  | [] => none
  | c :: rest =>
    match escapes.lookup c with
    | some n => some (Char.ofNat n, 1)
    | none =>
      (escapeDigits.lookup c).bind fun count =>
        (Text.numberedChar? count rest).map fun (char, _) => (char, count + 1)

/-- A scalar between quotes, from behind the opening quote; `double` tells quotes from apostrophes. -/
def quoted? (double : Bool) : Nat → Cursor → Option (List Char × Cursor)
  | 0, _ => none
  | fuel + 1, c =>
    let further (text : List Char) (c : Cursor) : Option (List Char × Cursor) :=
      (quoted? double fuel c).map fun (tail, c) => (text ++ tail, c)
    if c.atDocumentMark then none
    else
      match c.rest with
      | [] => none
      | q :: rest =>
        if isBlank q || isBreak q then
          (gap? 0 c.rest.length ⟨[], []⟩ c).bind fun (g, c) => further g.text c
        else if double then
          if q = '"' then some ([], c.skip 1)
          else if q = '\\' then
            match rest with
            | b :: _ =>
              if isBreak b then
                (gap? 0 c.rest.length ⟨[], [' ']⟩ (c.skip 1).skipBreak).bind fun (g, c) =>
                  further (g.breaks.drop 1) c
              else
                (escape? rest).bind fun (char, length) => further [char] (c.skip (length + 1))
            | [] => none
          else further [q] (c.skip 1)
        else if q = '\x27' then
          if rest.head? = some '\x27' then further [q] (c.skip 2) else some ([], c.skip 1)
        else further [q] (c.skip 1)

/-! ## Block scalars -/

/-- What happens to the line ends behind a block. -/
inductive Chomp where
  | strip
  | clip
  | keep
deriving DecidableEq

/-- The header of a block: what happens to its last line ends, and how far it is indented if that is said. -/
structure BlockHeader where
  chomp : Chomp
  indent : Option Nat

/-- The mark of a treatment of line ends. -/
def chompOf? (c : Char) : Option Chomp :=
  if c = '+' then some .keep else if c = '-' then some .strip else none

/-- The value of a digit from one to nine. -/
def indentOf? (c : Char) : Option Nat :=
  if '1' ≤ c && c ≤ '9' then some (c.toNat - 48) else none

/-- The header of a block, from behind its mark, and the first line of the block. -/
def blockHeader? (c : Cursor) : Option (BlockHeader × Cursor) :=
  let first := c.rest.head?
  let second := (c.rest.drop 1).head?
  let chomp := (first.bind chompOf?) <|> ((first.bind indentOf?).bind fun _ => second.bind chompOf?)
  let indent := (first.bind indentOf?) <|> ((first.bind chompOf?).bind fun _ => second.bind indentOf?)
  let length := chomp.toList.length + indent.toList.length
  (c.skip length).endLine?.map fun c => (⟨chomp.getD .clip, indent⟩, c)

/-- Passes empty lines and the indentation of the next line.  Gives the line ends, the largest indentation,
and the position.  When the indentation is not known all spaces belong to it. -/
def emptyLines? (indent : Option Nat) : Nat → Nat → Cursor → Option (List Char × Nat × Cursor)
  | 0, widest, c => some ([], widest, c)
  | fuel + 1, widest, c =>
    let spaces := (c.rest.takeWhile (· == ' ')).length
    let c := c.skip (match indent with
      | some n => min spaces (n - c.column)
      | none => spaces)
    let widest := max widest c.column
    let inside := match indent with
      | some n => decide (c.column < n)
      | none => true
    match c.rest with
    | [] => some ([], widest, c)
    | b :: _ =>
      if b = '\t' && inside then none
      else if isBreak b then
        (emptyLines? indent fuel widest c.skipBreak).map fun (breaks, widest, after) =>
          (c.breakText ++ breaks, widest, after)
      else some ([], widest, c)

/-- The lines of a block.  `pending` are the line end before the next line and the ones of empty lines;
`blank` tells whether the line before begins with a blank. -/
def blockLines? (literal : Bool) (indent : Nat) (chomp : Chomp) :
    Nat → List Char → List Char → Bool → Cursor → Option (List Char × Cursor)
  | 0, _, _, _, _ => none
  | fuel + 1, lineEnd, empty, blank, c =>
    match c.rest with
    | b :: _ =>
      if c.column = indent then
        let folds := !literal && lineEnd = ['\n'] && !blank && !isBlank b
        let joined := if folds then (if empty.isEmpty then [' '] else []) else lineEnd
        let line := c.rest.takeWhile (!isBreak ·)
        let c := c.skip line.length
        (emptyLines? (some indent) (c.rest.length + 1) 0 c.skipBreak).bind fun (breaks, _, after) =>
          (blockLines? literal indent chomp fuel c.breakText breaks (isBlank b) after).map
            fun (tail, after) => (joined ++ empty ++ line ++ tail, after)
      else some (blockEnd lineEnd empty, c)
    | [] => some (blockEnd lineEnd empty, c)
where
  /-- The line ends behind the last line, as far as they are kept. -/
  blockEnd (lineEnd empty : List Char) : List Char :=
    match chomp with
    | .strip => []
    | .clip => lineEnd
    | .keep => lineEnd ++ empty

/-- A block of lines, from behind its mark, inside blocks indented by `parent`. -/
def block? (literal : Bool) (parent : Int) (c : Cursor) : Option (List Char × Cursor) :=
  (blockHeader? c).bind fun (header, c) =>
    let said := header.indent.map fun n => (max parent 0).toNat + n
    (emptyLines? said (c.rest.length + 1) 0 c).bind fun (breaks, widest, c) =>
      let indent := said.getD (max widest (max 1 (parent + 1).toNat))
      blockLines? literal indent header.chomp (c.rest.length + 1) [] breaks false c

end ScadManual.Yaml
