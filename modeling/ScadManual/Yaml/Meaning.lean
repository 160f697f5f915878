import ScadManual.Yaml.Node

/-!
# What YAML scalars mean

A plain scalar without a tag is nothing, a truth value, a number or a text, by the way it looks.  Asked for
a text, every scalar is one; asked for anything, only those that look like nothing else are.
-/

namespace ScadManual.Yaml

/-! ## Looks -/

/-- Does the text stand for nothing? -/
def isNull (s : String) : Bool := ["null", "Null", "NULL", "~"].contains s

/-- The truth value of a text. -/
def boolean? (s : String) : Option Bool :=
  if ["true", "True", "TRUE"].contains s then some true
  else if ["false", "False", "FALSE"].contains s then some false
  else none

/-- Drops one sign in front. -/
def dropSign : List Char → List Char
  | '+' :: rest => rest
  | '-' :: rest => rest
  | cs => cs

/-- Is this a run of digits that begins with a zero and goes on?  Such a run is a text. -/
def isPaddedDigits (cs : List Char) : Bool :=
  match dropSign cs with
  | '0' :: d :: rest => (d :: rest).all Char.isDigit
  | _ => false

/-- Are these digits of a base whose value is below a limit? -/
def isBelow (isDigit : Char → Bool) (base limit : Nat) (ds : List Char) : Bool :=
  !ds.isEmpty && ds.all isDigit && Text.valueOf base ds < limit

/-- Is this an integer of at most 128 bits? -/
def isInteger (cs : List Char) : Bool :=
  let (limit, body) : Nat × List Char := match cs with
    | '-' :: rest => (Nat.pow 2 127 + 1, rest)
    | '+' :: rest => (Nat.pow 2 128, rest)
    | cs => (Nat.pow 2 128, cs)
  match body with
  | '0' :: 'x' :: ds => isBelow Text.isHexDigit 16 limit ds
  | '0' :: 'o' :: ds => isBelow Text.isOctalDigit 8 limit ds
  | '0' :: 'b' :: ds => isBelow Text.isBinaryDigit 2 limit ds
  | ds => !isPaddedDigits cs && isBelow Char.isDigit 10 limit ds

/-- The least number that is too large for a float of 64 bits, when numbers are rounded to the nearest. -/
def floatLimit : Nat := Nat.pow 2 1024 - Nat.pow 2 970

/-- Is a number, given by all its digits and the exponent of the last one, below the limit of floats? -/
def isFinite (ds : List Char) (exponent : Int) : Bool :=
  let ds := ds.dropWhile (· == '0')
  let size : Int := ds.length + exponent
  if ds.isEmpty || size < 309 then true
  else if size > 309 then false
  else if 0 ≤ exponent then Text.digitsValue ds * Nat.pow 10 exponent.toNat < floatLimit
  else Text.digitsValue ds < floatLimit * Nat.pow 10 (-exponent).toNat

/-- The value of an exponent behind its mark. -/
def exponent? (cs : List Char) : Option Int :=
  let ds := dropSign cs
  if ds.isEmpty || !ds.all Char.isDigit then none
  else
    let n : Int := Text.digitsValue ds
    some (if cs.head? = some '-' then -n else n)

/-- Is this a number in decimal digits, with or without a fraction and an exponent, that is finite? -/
def isFiniteDecimal (cs : List Char) : Bool :=
  let whole := cs.takeWhile Char.isDigit
  let rest := cs.drop whole.length
  let (fraction, rest) := match rest with
    | '.' :: rest => (rest.takeWhile Char.isDigit, rest.dropWhile Char.isDigit)
    | rest => ([], rest)
  let exponent := match rest with
    | [] => some 0
    | 'e' :: rest => exponent? rest
    | 'E' :: rest => exponent? rest
    | _ => none
  match exponent with
  | none => false
  | some e => !(whole ++ fraction).isEmpty && isFinite (whole ++ fraction) (e - fraction.length)

/-- Is this a float? -/
def isFloat (cs : List Char) : Bool :=
  let named := [".inf", ".Inf", ".INF", "+.inf", "+.Inf", "+.INF", "-.inf", "-.Inf", "-.INF", ".nan",
    ".NaN", ".NAN"]
  named.contains (String.ofList cs) || (!isPaddedDigits cs && isFiniteDecimal (dropSign cs))

/-- Does a plain scalar look like a text? -/
def looksLikeText (s : String) : Bool :=
  !s.isEmpty && !isNull s && (boolean? s).isNone && !isInteger s.toList && !isFloat s.toList

/-! ## Readings of nodes -/

/-- The tags of the kinds that are no texts. -/
def otherTags : List String :=
  ["bool", "int", "float", "null"].map ("tag:yaml.org,2002:" ++ ·)

namespace Node

/-- The text of a scalar of any kind. -/
def text? : Node → Option String
  | .scalar _ _ text => some text
  | _ => none

/-- The truth value of a scalar. -/
def truth? : Node → Option Bool
  | .scalar tag style text =>
    if style = .plain || (style = .literal && tag = some "tag:yaml.org,2002:bool") then boolean? text
    else none
  | _ => none

/-- Does the node stand for nothing?  A scalar that is tagged as nothing must. -/
def isAbsent? : Node → Option Bool
  | .scalar tag style text =>
    if style ≠ .plain then some false
    else if tag = some "tag:yaml.org,2002:null" then if isNull text then some true else none
    else if tag.isSome then some false
    else some (text.isEmpty || isNull text)
  | _ => some false

/-- The text of a scalar that is nothing else. -/
def onlyText? : Node → Option String
  | .scalar (some tag) _ text =>
    if otherTags.contains tag || Text.startsWith tag "!" then none else some text
  | .scalar none .plain text => if looksLikeText text then some text else none
  | .scalar none _ text => some text
  | _ => none

/-- The texts of a sequence of scalars that are nothing else. -/
def onlyTexts? : Node → Option (List String)
  | .sequence tag items =>
    if tag.any (Text.startsWith · "!") then none else items.mapM onlyText?
  | _ => none

end Node

end ScadManual.Yaml
