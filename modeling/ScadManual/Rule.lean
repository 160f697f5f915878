import ScadManual.Dict
import ScadManual.Error
import ScadManual.Text.Blank
import ScadManual.Text.Search

/-!
# Block rules

A rule says where a block may stand, what shape its body has, and what else it does.  Rules are written as
metadata: parts divided by semicolons, each a flag or `key=value`.
-/

namespace ScadManual

/-- Where a block may stand. -/
inductive Demand where
  | anywhere
  /-- Only while an item is open. -/
  | item
deriving DecidableEq, Repr

/-- The shape of a block's content. -/
inductive Shape where
  | generic
  | label
  | text
  | headerless
  | bulletList
  | numberedList
  /-- Tables, each with a list of column headers. -/
  | table (headerSets : List (List String))
  | figure
  | example
deriving DecidableEq, Repr

/-- What a block does to the open item besides standing below it. -/
inductive Effect where
  /-- Marks the item as deprecated or not. -/
  | status
  /-- Declares further names of the item. -/
  | aliases
deriving DecidableEq, Repr

/-- A rule for a kind of blocks. -/
structure Rule where
  demand : Demand
  shape : Shape
  effect : Option Effect
deriving DecidableEq, Repr

namespace Metadata

/-- A part of metadata: the key and the value around its first `=`, or a flag with an empty value. -/
def pair (part : String) : String × String :=
  match Text.cut? '=' part with
  | some (key, value) => (Text.trim key, Text.trim value)
  | none => (Text.trim part, "")

/-- The dictionary metadata spells; parts without a key do not count. -/
def parse (s : String) : Dict :=
  Dict.ofList (((Text.splitAt ';' s).map pair).filter (!·.1.isEmpty))

end Metadata

namespace Rule

/-- Column headers: `||` divides the tables and `|` the columns of one. -/
def headerSets (s : String) : List (List String) :=
  (Text.splitText "||" s).map fun set => (Text.splitAt '|' set).map Text.trim

/-- The column headers that a key `Table:...` carries, of the first such key. -/
def tableShorthand? (d : Dict) : Option String :=
  d.keys.findSome? (Text.afterStart? · "Table:")

/-- The rule that a dictionary of metadata spells.  When several shapes are named, lists come before tables,
tables before images, and images before text. -/
def ofDict (d : Dict) : Except Error Rule :=
  let demand := if d.has "ItemOnly" then Demand.item else Demand.anywhere
  let rule (shape : Shape) : Except Error Rule := .ok ⟨demand, shape, none⟩
  if d.has "NumList" then rule .numberedList
  else if d.has "BulletList" then rule .bulletList
  else if d.has "Table" || (tableShorthand? d).isSome then
    match d.get? "Headers" <|> tableShorthand? d with
    | some headers => rule (.table (headerSets headers))
    | none => .error (.structural "DefineHeader" .tableWithoutHeaders)
  else if d.has "Example" then rule .example
  else if d.has "Figure" then rule .figure
  else if d.has "Label" then rule .label
  else if d.has "Headerless" then rule .headerless
  else if d.has "Text" then rule .text
  else if d.has "Generic" then rule .generic
  else .error (.structural "DefineHeader" .unknownShape)

/-- The rule that metadata spells. -/
def parse (s : String) : Except Error Rule :=
  ofDict (Metadata.parse s)

end Rule

end ScadManual
