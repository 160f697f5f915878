import ScadManual.Dialect
import ScadManual.Link

/-!
# Links between pages

How pages link to items, sections and files.  A link names the page of what it points to, unless that is the
page it stands on.
-/

namespace ScadManual.Page

/-- What pages are written from, and how. -/
structure Setting where
  library : Library
  dialect : Dialect

namespace Setting

/-- The document. -/
def doc (s : Setting) : Document := s.library.document

/-- The file a link must name, seen from the page of `current`; no name is needed when `current` is
unknown. -/
def linkFile (origin : Origin) (current : Option String) : String :=
  match current with
  | some current => if current = origin.file then "" else origin.file
  | none => ""

/-- A link to an item.  Its label is the item's name when no other is given. -/
def itemLink (s : Setting) (id : NodeId) (current label : Option String) (literal : Bool) : String :=
  match s.doc.node? id with
  | none => ""
  | some n =>
    s.dialect.link (label.getD n.subtitle) (Markup.anchor (n.title ++ ": " ++ n.subtitle))
      (linkFile n.origin current) literal

/-- A link to a section. -/
def sectionLink (s : Setting) (id : NodeId) (current label : Option String) : String :=
  match s.doc.node? id with
  | none => ""
  | some n =>
    s.dialect.link (label.getD n.displayName) (Markup.anchor n.displayName) (linkFile n.origin current)
      false

/-- A link to a file. -/
def fileLink (s : Setting) (id : NodeId) (current : Option String) (label : String) : String :=
  match s.doc.node? id with
  | none => ""
  | some n => s.dialect.link label "" (linkFile n.origin current) false

/-- The text of a block with its links written out. -/
def links (s : Setting) (origin : Origin) (text : String) : Noted String :=
  Link.expand s.library.references id (fun item => s.itemLink item (some origin.file) none true) origin
    text

/-- The text of a block with its links written out and all else escaped. -/
def escapedLinks (s : Setting) (origin : Origin) (text : String) : Noted String :=
  Link.expand s.library.references Markup.escape
    (fun item => s.itemLink item (some origin.file) none true) origin text

/-! ## Lines of an index -/

/-- How a tag is shown: in brackets, as an abbreviation. -/
def tagWrap : String := "[<abbr>\x7b\x7d</abbr>]"

/-- The tags of an item. -/
def itemTags (info : ItemInfo) : String :=
  Dialect.mouseoverTags info.tags none "sup" tagWrap

/-- A dash, the synopsis and the tags of an item; nothing when it has neither.  Links that stand for nothing
are found where the synopsis itself is shown. -/
def synopsis (s : Setting) (id : NodeId) : String :=
  match s.doc.node? id with
  | none => ""
  | some n =>
    match n.item? with
    | none => ""
    | some info =>
      (if info.synopsis.isEmpty && info.tags.isEmpty then "" else " – ") ++
        Link.render s.library.references Markup.escape
          (fun item => s.itemLink item (some n.origin.file) none true) info.synopsis ++
        itemTags info

/-- The line of an item on an index page. -/
def indexLine (s : Setting) (id : NodeId) (current : String) : String :=
  s.itemLink id (some current) none true ++ " " ++ itemLabel (s.doc.title id) ++ s.synopsis id

/-- The items right below a node. -/
def itemsOf (s : Setting) (id : NodeId) : List NodeId :=
  (s.doc.children id).filter fun c => (s.doc.node? c).any Node.isItem

/-- Is the node a section? -/
def isSection (s : Setting) (id : NodeId) : Bool :=
  (s.doc.node? id).any (·.kind == .section)

/-- Is the node a subsection? -/
def isSubsection (s : Setting) (id : NodeId) : Bool :=
  (s.doc.node? id).any (·.kind == .subsection)

/-- The subsections right below a node. -/
def subsectionsOf (s : Setting) (id : NodeId) : List NodeId :=
  (s.doc.children id).filter s.isSubsection

end Setting

end ScadManual.Page
