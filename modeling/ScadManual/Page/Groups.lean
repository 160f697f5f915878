import ScadManual.Page.Link

/-!
# Groups of files

Index pages list files by group: named groups as they are first seen, then the files of no group.  Footnotes
of all files are gathered into one list, in which the first note of a mark holds.
-/

namespace ScadManual.Page.Setting

/-- The heading of files of no group. -/
def ungrouped : String := "Miscellaneous"

/-- The heading of a group. -/
def groupTitle (group : String) : String :=
  if group.isEmpty then ungrouped else group

/-- The group of a file. -/
def groupOf (s : Setting) (file : NodeId) : String :=
  (((s.doc.node? file).bind Node.file?).map (·.group)).getD ""

/-- The groups of files, named ones first. -/
def groups (s : Setting) (files : List NodeId) : List String :=
  let all := files.map s.groupOf
  ((all.filter (!·.isEmpty)) ++ all.filter (·.isEmpty)).eraseDups

/-- The files of a group, with what is known of them and their numbers among all files. -/
def groupMembers (s : Setting) (files : List NodeId) (group : String) :
    List (Nat × Node × FileInfo) :=
  (files.zipIdx 1).filterMap fun (file, number) =>
    (s.doc.node? file).bind fun n =>
      n.file?.bind fun info => if info.group = group then some (number, n, info) else none

/-! ## Footnotes -/

/-- The footnotes of a file as marks and notes. -/
def footnoteTags (info : FileInfo) : Dict :=
  Dict.ofList (info.footnotes.map fun f => (f.mark, f.note))

/-- Adds a footnote to those seen.  A mark with another note than before keeps the one before, and that is
found. -/
def gatherFootnote (seen : Dict) (f : Footnote) : Noted Dict :=
  match seen.get? f.mark with
  | none => Noted.of (seen.insert f.mark f.note)
  | some previous =>
    if previous = f.note then Noted.of seen
    else ⟨seen, [⟨f.origin, .structural "FileFootnotes" (.footnoteConflict f.note previous)⟩]⟩

/-- Adds footnotes in order. -/
def gatherFootnotes (seen : Dict) : List Footnote → Noted Dict
  | [] => Noted.of seen
  | f :: fs => (gatherFootnote seen f).bind fun seen => gatherFootnotes seen fs

/-- The footnotes of all files, group by group. -/
def allFootnotes (s : Setting) (files : List NodeId) : Noted Dict :=
  gatherFootnotes Dict.empty <|
    (s.groups files).flatMap fun group =>
      (s.groupMembers files group).flatMap fun (_, _, info) => info.footnotes

/-- The lines of gathered footnotes. -/
def footnoteLines (notes : Dict) : List String :=
  notes.entries.map fun (mark, note) => Dialect.lineBreak (mark ++ " = " ++ note)

end ScadManual.Page.Setting
