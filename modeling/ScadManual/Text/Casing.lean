import ScadManual.Text.Casing.Table

/-!
# Case mapping

Full lower and upper case by the standard's tables: a character may become a sequence, and a capital sigma
becomes the final form at the end of a word.  Texts of ASCII characters only take the short way.
-/

namespace ScadManual.Text

namespace Casing

/-- The code points a table sends `n` to; itself when the table does not list it. -/
def mapped (sequences : List (Nat × List Nat)) (runs : List Run) (n : Nat) : List Nat :=
  match sequences.lookup n with
  | some seq => seq
  | none =>
    match runs.findSome? (·.shifted? n) with
    | some m => [m]
    | none => [n]

/-- Lower case of one character, outside of any word. -/
def lowerChar (c : Char) : List Char :=
  if c.toNat < 0x80 then [c.toLower]
  else (mapped lowerSequences lowerRuns c.toNat).map Char.ofNat

/-- Upper case of one character. -/
def upperChar (c : Char) : List Char :=
  if c.toNat < 0x80 then [c.toUpper]
  else (mapped upperSequences upperRuns c.toNat).map Char.ofNat

/-- Does a cased letter come next, when ignorable characters are passed over? -/
def casedNext (cs : List Char) : Bool :=
  match cs.dropWhile (fun c => ignorable.has c.toNat) with
  | [] => false
  | c :: _ => cased.has c.toNat

/-- The capital letter sigma, and its two small forms: inside a word and at its end. -/
def capitalSigma : Char := Char.ofNat 0x3A3

@[inherit_doc capitalSigma]
def smallSigma : Char := Char.ofNat 0x3C3

@[inherit_doc capitalSigma]
def finalSigma : Char := Char.ofNat 0x3C2

/-- Lower case of the characters, where `before` lists those already passed, the nearest first. -/
def lowerChars (before : List Char) : List Char → List Char
  | [] => []
  | c :: rest =>
    (if c = capitalSigma then
      [if casedNext before && !casedNext rest then finalSigma else smallSigma]
     else lowerChar c) ++ lowerChars (c :: before) rest

end Casing

/-- The text in lower case. -/
def toLower (s : String) : String :=
  String.ofList (Casing.lowerChars [] s.toList)

/-- The text in upper case. -/
def toUpper (s : String) : String :=
  String.ofList (s.toList.flatMap Casing.upperChar)

end ScadManual.Text
