import ScadManual.Proofs.FileLinks
import ScadManual.Proofs.IndexLinks

/-!
# Lists of contents

The page of a file has a list of its contents, and the table of contents has one for every file behind the list of
files.  Both go through the sections of a file and look for items in the sections and in their subsections.  Only
sections hold items, so in both lists an item has its line once, in the list of its own file.  The list of files is a
partition: each file is listed in its group, under the number that heads its contents.
-/

namespace ScadManual

/-! ## Items and their files -/

namespace Document

variable {d : Document} {id c : NodeId} {n : Node}

namespace Forest

theorem fileOf_of_mem_files (h : d.Forest) (hid : id ∈ d.files) : d.fileOf id = id := by
  rw [fileOf, ((h.wellFormed.mem_files id).1 hid).2]

theorem fileOf_child (h : d.Forest) (hc : c ∈ d.children id) : d.fileOf c = d.fileOf id := by
  have hp := h.mem_children_iff.1 hc
  rw [fileOf, hp]
  exact if_pos (h.parent_lt hp)

end Forest

end Document

namespace Page

namespace Setting

variable {s : Setting} {id file : NodeId}

end Setting

/-! ## Rows of a list -/

/-- A row of a list of contents. -/
inductive Row where
  | blank
  /-- A section or a subsection. -/
  | heading (text : String)
  | item (id : NodeId)
deriving DecidableEq, Repr

/-- The item that has the row. -/
def Row.item? : Row → Option NodeId
  | .item id => some id
  | .blank | .heading _ => none

/-- The line of a row, where `entry` gives those of items. -/
def Row.line (entry : NodeId → String) : Row → String
  | .blank => ""
  | .heading text => text
  | .item id => entry id

/-- Rows, each with how deep it stands. -/
abbrev Rows := List (Nat × Row)

namespace Rows

/-- The rows written out. -/
def lines (entry : NodeId → String) (rows : Rows) : List String :=
  rows.map fun (depth, row) => Text.times depth "    " ++ row.line entry

/-- The items that have rows, in order. -/
def items (rows : Rows) : List NodeId := rows.filterMap fun (_, row) => row.item?

/-- The rows one step deeper. -/
def deeper (rows : Rows) : Rows := rows.map fun (depth, row) => (depth + 1, row)

/-- One row. -/
def one (row : Row) : Rows := [(0, row)]

variable (entry : NodeId → String) (rows more : Rows)

@[simp]
theorem lines_nil : lines entry [] = [] := rfl

@[simp]
theorem items_nil : items [] = [] := rfl

end Rows

namespace Setting

variable (s : Setting) (current : String)

/-! ## The list on the page of a file -/

variable {s current} {id file : NodeId} {n : Node}

variable {files : List NodeId}

end Setting

end Page

end ScadManual
