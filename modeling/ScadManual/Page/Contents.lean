import ScadManual.Page.File
import ScadManual.Page.Groups

/-!
# The table of contents

All files by group with their summaries and footnotes, then the sections and items of every file.
-/

namespace ScadManual.Page.Setting

/-- The anchor of the footnotes on this page. -/
def contentsFootnotes : String := "#file-footnotes"

/-- The lines of a file in its group. -/
def groupLines (s : Setting) (number : Nat) (n : Node) (info : FileInfo) : List String :=
  let link := s.dialect.link n.subtitle (Markup.anchor (toString number ++ ". " ++ n.subtitle)) "" false
  let docs := s.dialect.link "docs" "" n.subtitle false
  let marks :=
    Dialect.mouseoverTags (footnoteTags info) (some contentsFootnotes) "sup" "\x7b\x7d"
  [Dialect.bullet (link ++ " (" ++ docs ++ ")" ++ marks), info.summary]

/-- The lines of the items of a section. -/
def itemLines (s : Setting) (current : String) (id : NodeId) : List String :=
  (s.itemsOf id).map fun item => s.indexLine item current

/-- The lines of a subsection. -/
def subsectionLines (s : Setting) (current : String) (id : NodeId) : List String :=
  let items := s.itemLines current id
  Dialect.bullet (s.sectionLink id (some current) (some (s.doc.subtitle id))) ::
    (if items.isEmpty then [] else Dialect.indent (Dialect.bulletList items))

/-- The lines of a section. -/
def sectionLines (s : Setting) (current : String) (id : NodeId) : List String :=
  let subsections := s.subsectionsOf id
  let start :=
    if (s.doc.subtitle id).isEmpty then subsections.flatMap (s.subsectionLines current)
    else
      Dialect.lineBreak (Dialect.bullet
          (s.sectionLink id (some current) (some (s.doc.subtitle id)))) ::
        (if subsections.isEmpty then []
         else Dialect.paragraph
          (subsections.flatMap fun c => Dialect.indent (s.subsectionLines current c)))
  start ++ Dialect.indent (Dialect.bulletList (s.itemLines current id))

/-- The lines of a file, which is number `number`. -/
def fileLines (s : Setting) (current : String) (file : NodeId) (number : Nat) : List String :=
  let info := ((s.doc.node? file).bind Node.file?).getD FileInfo.empty
  let link := s.fileLink file (some current) (s.doc.subtitle file)
  Dialect.header (toString number ++ ". " ++ link) sectionLevel false ++
    (if info.summary.isEmpty then [] else [Dialect.lineBreak info.summary]) ++
    info.footnotes.map (fun f => Dialect.lineBreak (Dialect.italics f.note)) ++
    ((s.doc.children file).filter s.isSection).flatMap (s.sectionLines current) ++
    [""]

/-- The table of contents of files in display order. -/
def contentsPage (s : Setting) (files : List NodeId) : Noted (List String) :=
  let current := s.dialect.pageFile .contents
  (s.allFootnotes files).map fun notes =>
    Dialect.header "Table of Contents" fileLevel true ++
      Dialect.header "List of Files" sectionLevel true ++
      (s.groups files).flatMap (fun group =>
        Dialect.blockHeader (groupTitle group) "" true ++
          (s.groupMembers files group).flatMap (fun (number, n, info) => s.groupLines number n info) ++
          [""]) ++
      (if notes.isEmpty then []
       else
        [""] ++ Dialect.header "File Footnotes:" subsectionLevel true ++ footnoteLines notes ++ [""]) ++
      (files.zipIdx 1).flatMap fun (file, number) => s.fileLines current file number

end ScadManual.Page.Setting
