import ScadManual.Text.Ranges

/-!
# White space

Blank characters are those of the standard's property `White_Space`, of any script, and trimming removes
them at the ends of a text.  Everything is said over the list of characters; the functions on `String` wrap
it.
-/

namespace ScadManual.Text

/-- Code points with the property `White_Space`. -/
def whiteSpace : Ranges :=
  [(0x9, 0xD), (0x20, 0x20), (0x85, 0x85), (0xA0, 0xA0), (0x1680, 0x1680), (0x2000, 0x200A),
   (0x2028, 0x2029), (0x202F, 0x202F), (0x205F, 0x205F), (0x3000, 0x3000)]

/-- Is the character white space? -/
def isBlank (c : Char) : Bool :=
  whiteSpace.has c.toNat

/-- The characters without the blanks in front. -/
def trimStartChars (cs : List Char) : List Char :=
  cs.dropWhile isBlank

/-- The characters without the blanks behind. -/
def trimEndChars (cs : List Char) : List Char :=
  (cs.reverse.dropWhile isBlank).reverse

/-- The characters without the blanks at either end. -/
def trimChars (cs : List Char) : List Char :=
  trimEndChars (trimStartChars cs)

/-- The text without the blanks in front. -/
def trimStart (s : String) : String :=
  String.ofList (trimStartChars s.toList)

/-- The text without the blanks behind. -/
def trimEnd (s : String) : String :=
  String.ofList (trimEndChars s.toList)

/-- The text without the blanks at either end. -/
def trim (s : String) : String :=
  String.ofList (trimChars s.toList)

end ScadManual.Text
