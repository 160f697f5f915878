import ScadManual.Document.Basic
import ScadManual.Noted

/-!
# References

The names under which items can be linked to: their own names and their aliases.  The first declaration of
a name holds.
-/

namespace ScadManual

/-- Names and the items they stand for, in the order of their declaration. -/
structure References where
  entries : List (String × NodeId)
deriving DecidableEq, Repr

namespace References

/-- No name. -/
def empty : References := ⟨[]⟩

/-- The item of a name. -/
def get? (r : References) (name : String) : Option NodeId :=
  r.entries.lookup name

/-- Where a node stands. -/
def originOf (d : Document) (id : NodeId) : Origin :=
  ((d.node? id).map (·.origin)).getD ⟨"", 0⟩

/-- It is an error when a name, in a block of the given title, stands for an item of a document already. -/
def requireFree (r : References) (d : Document) (block name : String) : Except Error Unit :=
  match r.get? name with
  | some previous => .error (.duplicate block name (originOf d previous))
  | none => .ok ()

/-- Declares a name for an item of a document, in a block of the given title. -/
def declare (r : References) (d : Document) (block name : String) (item : NodeId) :
    Except Error References := do
  r.requireFree d block name
  return ⟨r.entries ++ [(name, item)]⟩

/-- The names and their items, in the order of the names. -/
def sorted (r : References) : List (String × NodeId) :=
  r.entries.mergeSort fun a b => !decide (b.1 < a.1)

/-- The items of a list of names, without `owner`; names that stand for nothing are found. -/
def seeAlso (r : References) (names : List String) (owner : NodeId) (origin : Origin) :
    Noted (List NodeId) :=
  Noted.concat <| names.map fun name =>
    match r.get? name with
    | some id => Noted.of (if id = owner then [] else [id])
    | none => ⟨[], [⟨origin, .reference ("'" ++ name ++ "'")⟩]⟩

end References

/-- A document and the names of its items. -/
structure Library where
  document : Document
  references : References

end ScadManual
