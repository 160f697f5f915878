/-!
# Numerals

The value of a run of ASCII digits, numbers that must fit into 32 bits, and characters given by their number.
-/

namespace ScadManual.Text

/-- The value of decimal digits, most significant first. -/
def digitsValue (ds : List Char) : Nat :=
  ds.foldl (fun n d => 10 * n + (d.toNat - 48)) 0

/-- The first number that does not fit into 32 bits. -/
def wordLimit : Nat := 4294967296

/-- The value of decimal digits, when it fits into 32 bits. -/
def word32? (ds : List Char) : Option Nat :=
  let n := digitsValue ds
  if n < wordLimit then some n else none

/-! ## Other bases -/

/-- Is the character a digit of base sixteen? -/
def isHexDigit (c : Char) : Bool :=
  c.isDigit || ('a' ≤ c && c ≤ 'f') || ('A' ≤ c && c ≤ 'F')

/-- Is the character a digit of base eight? -/
def isOctalDigit (c : Char) : Bool := '0' ≤ c && c ≤ '7'

/-- Is the character a digit of base two? -/
def isBinaryDigit (c : Char) : Bool := c = '0' || c = '1'

/-- The value of a digit of base sixteen or less. -/
def digitValue (c : Char) : Nat :=
  if c.isDigit then c.toNat - 48
  else if c.toNat ≥ 97 then c.toNat - 87
  else c.toNat - 55

/-- The value of digits in a base. -/
def valueOf (base : Nat) (ds : List Char) : Nat :=
  ds.foldl (fun n d => base * n + digitValue d) 0

/-- The character whose number is written with exactly so many digits of base sixteen, and what follows. -/
def numberedChar? (count : Nat) (cs : List Char) : Option (Char × List Char) :=
  let ds := cs.take count
  let n := valueOf 16 ds
  if ds.length = count && ds.all isHexDigit && n.isValidChar then some (Char.ofNat n, cs.drop count)
  else none

end ScadManual.Text
