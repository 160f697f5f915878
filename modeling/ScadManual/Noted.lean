import ScadManual.Log

/-!
# Results with findings

Writing a page may find errors on the way, such as links to nothing.  A noted value is a result and what was
found, in order.  Nothing is logged here, so writing a page twice gives the same result twice.
-/

namespace ScadManual

/-- A value and what was found on the way to it. -/
structure Noted (α : Type) where
  value : α
  findings : List Finding

namespace Noted

/-- A value and nothing found. -/
def of {α : Type} (a : α) : Noted α := ⟨a, []⟩

/-- The value changed, the findings kept. -/
def map {α β : Type} (f : α → β) (n : Noted α) : Noted β := ⟨f n.value, n.findings⟩

/-- One after the other; the findings of the first come first. -/
def bind {α β : Type} (n : Noted α) (f : α → Noted β) : Noted β :=
  ⟨(f n.value).value, n.findings ++ (f n.value).findings⟩

instance : Monad Noted where
  pure := of
  bind := bind

/-- The values in order, with everything found. -/
def all {α : Type} (ns : List (Noted α)) : Noted (List α) :=
  ⟨ns.map (·.value), ns.flatMap (·.findings)⟩

/-- The lines in order, with everything found. -/
def concat {α : Type} (ns : List (Noted (List α))) : Noted (List α) :=
  ⟨ns.flatMap (·.value), ns.flatMap (·.findings)⟩

end Noted

end ScadManual
