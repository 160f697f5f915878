import ScadManual.Dict
import ScadManual.Text.Letter
import ScadManual.Text.Search

/-!
# Environments

The variables that a program is started with, and texts that mention them.  A variable is written `$NAME`
or between braces, where a value to take instead may follow `:-`; two dollars stand for one.  A tilde that
begins a path stands for the home directory.
-/

namespace ScadManual

/-- The variables that a program is started with. -/
structure Environment where
  values : Dict
deriving DecidableEq, Repr

namespace Environment

/-- The value of a variable. -/
def get? (env : Environment) (name : String) : Option String :=
  env.values.get? name

/-- The home directory. -/
def home? (env : Environment) : Option String :=
  env.get? "HOME"

/-- Can the character be part of the name of a variable that stands without braces? -/
def isNameChar (c : Char) : Bool := Text.isWordChar c || c = '_'

/-- The characters between the braces cut into a name and the value to take instead.  A cut that leaves no
name is none. -/
def cutDefault (inner : List Char) : String × Option String :=
  match Text.splitTextChars [':', '-'] [] inner with
  | name :: piece :: pieces =>
    if name.isEmpty then (String.ofList inner, none)
    else (String.ofList name, some (String.ofList ([':', '-'].intercalate (piece :: pieces))))
  | _ => (String.ofList inner, none)

/-- What a variable between braces stands for.  An empty variable counts as unset when there is a value to
take instead, and stays as it is written when there is none; an unset one must have such a value. -/
def braced? (env : Environment) (inner : List Char) : Option String :=
  let (name, instead) := cutDefault inner
  match env.get? name, instead with
  | some value, _ =>
    if value.isEmpty then some (instead.getD ("$\x7b" ++ String.ofList inner ++ "\x7d"))
    else some value
  | none, instead => instead

/-- The text with its variables put in; none when one of them is unset. -/
def expandChars (env : Environment) (cs : List Char) : Option (List Char) :=
  match cs with
  | [] => some []
  | '$' :: '$' :: rest => (env.expandChars rest).map ('$' :: ·)
  | '$' :: '\x7b' :: rest =>
    match h : Text.cutChars? '\x7d' rest with
    | none => (env.expandChars rest).map fun tail => '$' :: '\x7b' :: tail
    | some (inner, after) =>
      have := Text.length_lt_of_cutChars? h
      (env.braced? inner).bind fun value => (env.expandChars after).map (value.toList ++ ·)
  | '$' :: rest =>
    let name := rest.takeWhile isNameChar
    if name.isEmpty then (env.expandChars rest).map ('$' :: ·)
    else
      (env.get? (String.ofList name)).bind fun value =>
        (env.expandChars (rest.drop name.length)).map (value.toList ++ ·)
  | c :: rest => (env.expandChars rest).map (c :: ·)
termination_by cs.length
decreasing_by all_goals grind

/-- The text with a tilde in front replaced by the home directory, when it is one. -/
def expandHome (env : Environment) (cs : List Char) : List Char :=
  match cs, env.home? with
  | ['~'], some home => home.toList
  | '~' :: '/' :: rest, some home => home.toList ++ '/' :: rest
  | cs, _ => cs

/-- The text with its variables put in, and then the home directory for a tilde in front; a tilde that came
out of a variable stays.  None when a variable is unset. -/
def expand? (env : Environment) (text : String) : Option String :=
  (env.expandChars text.toList).map fun cs =>
    if Text.startsWith text "~" || cs.head? != some '~' then String.ofList (env.expandHome cs)
    else String.ofList cs

/-- The text with its variables put in, or the text as it is when a variable is unset. -/
def expand (env : Environment) (text : String) : String :=
  (env.expand? text).getD text

/-- The names of variables that a text may mention. -/
def mentioned (text : String) : List String :=
  ((Text.splitAt '$' text).drop 1).map fun piece =>
    match piece.toList with
    | '\x7b' :: rest => (cutDefault (rest.takeWhile (· != '\x7d'))).1
    | cs => String.ofList (cs.takeWhile isNameChar)

end Environment

end ScadManual
