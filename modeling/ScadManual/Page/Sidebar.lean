import ScadManual.Page.File
import ScadManual.Page.Groups

/-!
# The sidebar

Links to the index pages, then every file by group with its footnote marks.
-/

namespace ScadManual.Page.Setting

/-- The anchor of the footnotes in the sidebar. -/
def sidebarFootnotes : String := "#footnotes"

/-- The index pages the sidebar links to, with their labels. -/
def sidebarPages : List (String × IndexPage) :=
  [("Table of Contents", .contents), ("Function Index", .alphabetical), ("Topics Index", .topics),
    ("Cheat Sheet", .cheatSheet)]

/-- The sidebar of files in display order. -/
def sidebarPage (s : Setting) (files : List NodeId) : Noted (List String) :=
  (s.allFootnotes files).map fun notes =>
    sidebarPages.map (fun (label, page) =>
      Dialect.lineBreak (s.dialect.link label "" (s.dialect.pageLink page) false)) ++
    [""] ++ Dialect.header "List of Files:" subsectionLevel true ++
    (s.groups files).flatMap (fun group =>
      Dialect.blockHeader (groupTitle group) "" true ++
        Dialect.bulletList ((s.groupMembers files group).map fun (_, n, info) =>
          s.dialect.link n.subtitle "" n.subtitle false ++
            Dialect.mouseoverTags (footnoteTags info) (some sidebarFootnotes) "sup" "\x7b\x7d")) ++
    (if notes.isEmpty then []
     else [""] ++ Dialect.header "Footnotes:" subsectionLevel true ++ footnoteLines notes)

end ScadManual.Page.Setting
