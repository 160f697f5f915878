/-!
# Origins

Where a block stands: the name of its source and a line number that counts from one.
-/

namespace ScadManual

/-- A line of a source. -/
structure Origin where
  file : String
  line : Nat
deriving DecidableEq, Repr, Inhabited

/-- The usual spelling, source and line with a colon between. -/
def Origin.text (o : Origin) : String :=
  o.file ++ ":" ++ toString o.line

end ScadManual
