import ScadManual.Document.Basic

/-!
# Places

Where the next block of a source lands.  A source starts outside of everything; a file block opens a file,
and inside it sections, subsections and items open one after the other.  Items always stand in a section,
even while a subsection is open, and when an item closes its section is the place again.
-/

namespace ScadManual

/-- The innermost thing that is open, with what it stands in. -/
inductive Place where
  /-- No file block has been seen. -/
  | outside
  | file (file : NodeId)
  | section (file sect : NodeId)
  | subsection (file sect sub : NodeId)
  | item (file sect item : NodeId)
deriving DecidableEq, Repr

namespace Place

/-- The open file. -/
def file? : Place → Option NodeId
  | .outside => none
  | .file f => some f
  | .section f _ => some f
  | .subsection f _ _ => some f
  | .item f _ _ => some f

/-- The open section. -/
def section? : Place → Option NodeId
  | .section _ s => some s
  | .subsection _ s _ => some s
  | .item _ s _ => some s
  | _ => none

/-- The open item. -/
def item? : Place → Option NodeId
  | .item _ _ i => some i
  | _ => none

/-- The node that the next block stands below. -/
def parent? : Place → Option NodeId
  | .outside => none
  | .file f => some f
  | .section _ s => some s
  | .subsection _ _ t => some t
  | .item _ _ i => some i

/-- The place after the open item, if any, has ended. -/
def closeItem : Place → Place
  | .item f s _ => .section f s
  | p => p

end Place

end ScadManual
