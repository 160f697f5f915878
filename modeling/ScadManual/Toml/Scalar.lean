import ScadManual.Text.Numeral
import ScadManual.Text.Search
import ScadManual.Toml.Value

/-!
# TOML numbers, moments and truth values

The values that are written without quotes and brackets.  Each reader takes the whole of the written text.
-/

namespace ScadManual.Toml

/-! ## Digits -/

/-- The digits of a numeral in which single underscores may stand between two digits. -/
def digits? (isDigit : Char → Bool) : List Char → Option (List Char)
  | [] => none
  | [c] => if isDigit c then some [c] else none
  | c :: '_' :: rest => if isDigit c then (digits? isDigit rest).map (c :: ·) else none
  | c :: rest => if isDigit c then (digits? isDigit rest).map (c :: ·) else none

/-! ## Numbers -/

/-- The sign of a numeral, true for a minus, and what follows it. -/
def cutSign : List Char → Bool × List Char
  | '-' :: rest => (true, rest)
  | '+' :: rest => (false, rest)
  | cs => (false, cs)

/-- The digits of a decimal numeral, which has no zero in front of others. -/
def decimalDigits? (cs : List Char) : Option (List Char) :=
  match digits? Char.isDigit cs with
  | some ('0' :: _ :: _) => none
  | ds => ds

/-- The largest number of bits of an integer. -/
def integerBits : Nat := 128

/-- A number, when it fits into a word. -/
def fitting? (negative : Bool) (n : Nat) : Option Value :=
  if negative then
    if n ≤ Nat.pow 2 (integerBits - 1) then some (.integer (-(n : Int))) else none
  else if n < Nat.pow 2 integerBits then some (.integer n) else none

/-- An integer: decimal with an optional sign, or in base sixteen, eight or two without one. -/
def integer? (cs : List Char) : Option Value :=
  match cs with
  | '0' :: 'x' :: ds => (digits? Text.isHexDigit ds).bind fun ds => fitting? false (Text.valueOf 16 ds)
  | '0' :: 'o' :: ds => (digits? Text.isOctalDigit ds).bind fun ds => fitting? false (Text.valueOf 8 ds)
  | '0' :: 'b' :: ds => (digits? Text.isBinaryDigit ds).bind fun ds => fitting? false (Text.valueOf 2 ds)
  | cs =>
    let (negative, ds) := cutSign cs
    (decimalDigits? ds).bind fun ds => fitting? negative (Text.digitsValue ds)

/-- Is this an exponent, without its mark? -/
def isExponent (cs : List Char) : Bool :=
  (digits? Char.isDigit (cutSign cs).2).isSome

/-- Is this a fraction, without its point, and perhaps an exponent? -/
def isFraction (cs : List Char) : Bool :=
  let exponent := cs.dropWhile fun c => c != 'e' && c != 'E'
  (digits? Char.isDigit (cs.take (cs.length - exponent.length))).isSome &&
    (exponent.isEmpty || isExponent (exponent.drop 1))

/-- Is this a number with a fraction or an exponent, or one that is infinite or undefined? -/
def isDecimal (cs : List Char) : Bool :=
  let cs := (cutSign cs).2
  if cs = "inf".toList || cs = "nan".toList then true
  else
    let whole := cs.takeWhile fun c => c.isDigit || c = '_'
    (decimalDigits? whole).isSome &&
      match cs.drop whole.length with
      | '.' :: rest => isFraction rest
      | 'e' :: rest => isExponent rest
      | 'E' :: rest => isExponent rest
      | _ => false

/-! ## Moments -/

/-- The value of two digits. -/
def twoDigits? (a b : Char) : Option Nat :=
  if a.isDigit && b.isDigit then some (Text.digitsValue [a, b]) else none

/-- Is the value of the two digits in a range? -/
def isPair (low high : Nat) (a b : Char) : Bool :=
  match twoDigits? a b with
  | some n => decide (low ≤ n) && decide (n ≤ high)
  | none => false

/-- The number of days of a month. -/
def monthDays (year month : Nat) : Nat :=
  if month = 2 then
    if year % 4 = 0 && (year % 100 != 0 || year % 400 = 0) then 29 else 28
  else if [4, 6, 9, 11].contains month then 30
  else 31

/-- Is this a date? -/
def isDate : List Char → Bool
  | [a, b, c, d, '-', e, f, '-', g, h] =>
    [a, b, c, d].all Char.isDigit && isPair 1 12 e f &&
      isPair 1 (monthDays (Text.digitsValue [a, b, c, d]) (Text.digitsValue [e, f])) g h
  | _ => false

/-- Is this a part of a second after its point? -/
def isSecondPart (cs : List Char) : Bool :=
  !cs.isEmpty && cs.all Char.isDigit

/-- Is this a time of day?  The seconds may be missing. -/
def isTime : List Char → Bool
  | a :: b :: ':' :: c :: d :: rest =>
    isPair 0 23 a b && isPair 0 59 c d &&
      match rest with
      | [] => true
      | [':', e, f] => isPair 0 60 e f
      | ':' :: e :: f :: '.' :: part => isPair 0 60 e f && isSecondPart part
      | _ => false
  | _ => false

/-- Is this a distance from universal time? -/
def isOffset : List Char → Bool
  | ['Z'] => true
  | ['z'] => true
  | [sign, a, b, ':', c, d] => (sign = '+' || sign = '-') && isPair 0 23 a b && isPair 0 59 c d
  | _ => false

/-- Is this a time of day, perhaps with its distance from universal time? -/
def isTimeWithOffset (cs : List Char) : Bool :=
  let time := cs.takeWhile fun c => c.isDigit || c = ':' || c = '.'
  isTime time && (time.length = cs.length || isOffset (cs.drop time.length))

/-- Is this a date, a time of day, or both? -/
def isMoment (cs : List Char) : Bool :=
  isTime cs || isDate cs ||
    (isDate (cs.take 10) &&
      match cs.drop 10 with
      | sep :: rest => (sep = 'T' || sep = 't' || sep = ' ') && isTimeWithOffset rest
      | [] => false)

/-- The value of a text without quotes and brackets. -/
def scalar? (cs : List Char) : Option Value :=
  if cs = "true".toList then some (.boolean true)
  else if cs = "false".toList then some (.boolean false)
  else if isMoment cs then some (.moment (String.ofList cs))
  else if isDecimal cs then some (.decimal (String.ofList cs))
  else integer? cs

end ScadManual.Toml
