import ScadManual.Text.Casing
import ScadManual.Text.Search

/-!
# Markup text

Escapes and anchors that all dialects of Markdown share.  Text between two backticks is a code span and is
never escaped; a backtick without a partner opens none.
-/

namespace ScadManual.Markup

/-- The character that encloses code spans. -/
def tick : Char := '\x60'

/-- A character outside of code spans. -/
def escapeChar (c : Char) : List Char :=
  if c = '_' then ['\\', '_']
  else if c = '&' then "&amp;".toList
  else if c = '<' then "&lt;".toList
  else if c = '>' then "&gt;".toList
  else [c]

/-- Escapes the characters outside of code spans. -/
def escapeChars (cs : List Char) : List Char :=
  match h : Text.cutChars? tick cs with
  | none => cs.flatMap escapeChar
  | some (plain, rest) =>
    match h' : Text.cutChars? tick rest with
    | none => cs.flatMap escapeChar
    | some (code, tail) =>
      have := Text.length_lt_of_cutChars? h
      have := Text.length_lt_of_cutChars? h'
      plain.flatMap escapeChar ++ tick :: code ++ tick :: escapeChars tail
termination_by cs.length

/-- Escapes `_`, `&`, `<` and `>` outside of code spans. -/
def escape (s : String) : String :=
  String.ofList (escapeChars s.toList)

/-- A character inside a quoted attribute. -/
def attributeChar (c : Char) : List Char :=
  if c = '&' then "&amp;".toList
  else if c = '<' then "&lt;".toList
  else if c = '>' then "&gt;".toList
  else if c = '"' then "&quot;".toList
  else [c]

/-- Escapes the value of a quoted attribute. -/
def attributeValue (s : String) : String :=
  String.ofList (s.toList.flatMap attributeChar)

/-- The part of an anchor that a character leaves: small letters, digits, `_` and `-`, and a dash for a
space. -/
def anchorChar? (c : Char) : Option Char :=
  if c = ' ' then some '-'
  else if c.isLower || c.isDigit || c = '_' || c = '-' then some c
  else none

/-- The anchor of a header with the given text. -/
def anchor (header : String) : String :=
  String.ofList ((Text.toLower header).toList.filterMap anchorChar?)

end ScadManual.Markup
