/-!
# Sorted lists of text

Texts are ordered by their code points.  Sorting is stable: what a key does not tell apart keeps its order.
-/

namespace ScadManual.Text

/-- Puts a member into a sorted list, before the members with the same key. -/
def insertBy {α : Type} (key : α → String) (x : α) : List α → List α
  | [] => [x]
  | y :: ys => if key y < key x then y :: insertBy key x ys else x :: y :: ys

/-- The list sorted by a key; members with the same key keep their order. -/
def sortBy {α : Type} (key : α → String) (xs : List α) : List α :=
  xs.foldr (insertBy key) []

/-- The texts sorted, each once. -/
def sortedDistinct (xs : List String) : List String :=
  (sortBy id xs).eraseDups

end ScadManual.Text
