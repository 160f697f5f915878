import ScadManual.Document.Basic

/-!
# Outlines

The document as indented lines: the name of each node and, one step further in, its body.
-/

namespace ScadManual.Document

/-- The outline of the nodes, each line starting with `margin`, down to the given depth. -/
def outlineAt (d : Document) (margin : String) : Nat → List NodeId → List String
  | 0, _ => []
  | depth + 1, ids =>
    ids.flatMap fun id =>
      match d.node? id with
      | none => []
      | some n =>
        (margin ++ n.displayName) :: n.body.map (fun line => "  " ++ margin ++ line) ++
          d.outlineAt (margin ++ "  ") depth (d.children id)

/-- The outline of the nodes, down to the given depth. -/
def outline (d : Document) (roots : List NodeId) (depth : Nat) : List String :=
  d.outlineAt "" depth roots

end ScadManual.Document
