import ScadManual.Rule

/-!
# The registry of rules

Rules by the title of the blocks they govern.  A few are built in and sources define more.
-/

namespace ScadManual

/-- Rules by title, one per title. -/
structure Registry where
  rules : List (String × Rule)
deriving DecidableEq, Repr

namespace Registry

/-- No rule. -/
def empty : Registry := ⟨[]⟩

/-- Puts a rule into a list, in its title's place or at the end. -/
def put (title : String) (rule : Rule) : List (String × Rule) → List (String × Rule)
  | [] => [(title, rule)]
  | (t, r) :: rest => if t = title then (t, rule) :: rest else (t, r) :: put title rule rest

/-- Puts a rule, in place of the one the title had. -/
def insert (r : Registry) (title : String) (rule : Rule) : Registry :=
  ⟨put title rule r.rules⟩

/-- The rule of a title. -/
def get? (r : Registry) (title : String) : Option Rule :=
  r.rules.lookup title

/-- Has the title a rule? -/
def has (r : Registry) (title : String) : Bool :=
  (r.get? title).isSome

/-- The titles, in increasing order. -/
def titles (r : Registry) : List String :=
  (r.rules.map (·.1)).mergeSort fun a b => !decide (b < a)

/-- The number of rules. -/
def size (r : Registry) : Nat :=
  r.rules.length

/-- Adds the rule that metadata spells, for a title without the blanks around it. -/
def define (r : Registry) (title metadata : String) : Except Error Registry :=
  match Rule.parse metadata with
  | .ok rule => .ok (r.insert (Text.trim title) rule)
  | .error e => .error e

/-- The header over arguments that may be given by position. -/
def byPosition : String :=
  "^<abbr title=\"These args can be used by position or by name.\">By&nbsp;Position</abbr>"

/-- The header over arguments that must be given by name. -/
def byName : String :=
  "^<abbr title=\"These args must be used by name, ie: name=value\">By&nbsp;Name</abbr>"

/-- The header over descriptions of arguments. -/
def whatItDoes : String := "What it does"

/-- The rules that are always there. -/
def builtin : Registry :=
  ⟨[("Status", ⟨.item, .label, some .status⟩),
    ("Alias", ⟨.item, .label, some .aliases⟩),
    ("Aliases", ⟨.item, .label, some .aliases⟩),
    ("Arguments", ⟨.item, .table [[byPosition, whatItDoes], [byName, whatItDoes]], none⟩)]⟩

end Registry

end ScadManual
