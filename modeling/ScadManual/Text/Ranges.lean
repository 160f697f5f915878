/-!
# Ranges of code points

A property of characters is a list of closed ranges of code points, in increasing order.
-/

namespace ScadManual.Text

/-- Closed ranges of code points, in increasing order. -/
abbrev Ranges := List (Nat × Nat)

/-- Does some range hold the code point?  The search stops at the first range that starts beyond it. -/
def Ranges.has : Ranges → Nat → Bool
  | [], _ => false
  | (lo, hi) :: rest, n => if n < lo then false else n ≤ hi || Ranges.has rest n

end ScadManual.Text
