import ScadManual.Page.File

/-!
# The cheat sheet

The usage lines of every item, file by file, with the item's name linked.  Short usages share a line.
-/

namespace ScadManual.Page

/-- Characters of usage text that one line may hold. -/
def cheatLineWidth : Nat := 80

/-- Longer usages start a line. -/
def cheatPartWidth : Nat := 40

/-- What stands between usages on one line. -/
def cheatSeparator : String := "&nbsp; &nbsp; "

/-- A usage: how long it is in its source, and how it is shown. -/
structure Usage where
  length : Nat
  shown : String
deriving DecidableEq, Repr

/-- Must a usage start a line, with `used` characters on the current one? -/
def Usage.startsLine (u : Usage) (used : Nat) : Bool :=
  used + u.length > cheatLineWidth || u.length > cheatPartWidth

/-- Fills the current line, whose usages are `line` in reverse and `used` characters long, and then further
lines. -/
def fillLines (line : List Usage) (used : Nat) : List Usage → List (List Usage)
  | [] => if line.isEmpty then [] else [line.reverse]
  | u :: us =>
    if u.startsLine used then
      (if line.isEmpty then [] else [line.reverse]) ++ fillLines [u] u.length us
    else fillLines (u :: line) (used + u.length) us

/-- Usages put on lines. -/
def usageLines (us : List Usage) : List (List Usage) :=
  fillLines [] 0 us

namespace Setting

/-- The name of an item without what no name holds. -/
def plainName (name : String) : String :=
  String.ofList (name.toList.filter fun c => Text.isAsciiAlnum c || c == '_' || c == '$')

/-- A usage line of an item; every place where the name stands is a link. -/
def usage (name link line : String) : Usage :=
  { length := line.length
    shown := Dialect.lineBreak
      (Dialect.codeSpan (Text.replaceAll (Markup.escape line) (Markup.escape name) link)) }

/-- The usages of an item. -/
def usagesOf (s : Setting) (current : String) (item : NodeId) : List Usage :=
  let name := plainName (s.doc.subtitle item)
  let link := s.itemLink item (some current) (some name) false
  ((s.doc.childrenTitled item ["Usage"]).flatMap s.doc.body).map (usage name link)

/-- The lines of an item. -/
def itemCheatLines (s : Setting) (current : String) (item : NodeId) : List String :=
  let usages := s.usagesOf current item
  Dialect.quote ((usageLines usages).map fun us =>
      String.intercalate cheatSeparator (us.map (·.shown))) ++
    (if usages.isEmpty then [] else [""])

/-- Links to the constants of a section, with their aliases. -/
def constantLinks (s : Setting) (current : String) (id : NodeId) : List String :=
  (s.doc.childrenTitled id ["Constant"]).flatMap fun item =>
    let aliases := (((s.doc.node? item).bind Node.item?).map (·.aliases)).getD []
    s.itemLink item (some current) none true ::
      aliases.map fun name => s.itemLink item (some current) (some name) true

/-- The lines of a section; none when it has neither constants nor usages. -/
def sectionCheatLines (s : Setting) (current : String) (id : NodeId) : List String :=
  let constants := s.constantLinks current id
  let items :=
    (s.doc.childrenTitled id ["Function", "Module", "Function&Module"]).flatMap
      (s.itemCheatLines current)
  if constants.isEmpty && items.isEmpty then []
  else
    Dialect.header (s.doc.title id ++ ": " ++ s.doc.subtitle id) itemLevel true ++
      (if constants.isEmpty then [] else ["Constants: " ++ String.intercalate " " constants]) ++
      items ++ [""]

/-- The lines of a file; none when its sections have none. -/
def fileCheatLines (s : Setting) (current : String) (file : NodeId) : List String :=
  let lines := (s.doc.childrenTitled file ["Section"]).flatMap (s.sectionCheatLines current)
  if lines.isEmpty then []
  else
    Dialect.header (s.doc.title file ++ ": " ++ s.doc.subtitle file) subsectionLevel true ++ lines

/-- The cheat sheet of files in display order. -/
def cheatSheetPage (s : Setting) (files : List NodeId) (project : Option String) : List String :=
  let title :=
    match project with
    | some name => name ++ " Cheat Sheet"
    | none => "Cheat Sheet"
  Dialect.header title fileLevel true ++
    files.flatMap (s.fileCheatLines (s.dialect.pageFile .cheatSheet))

end Setting

end ScadManual.Page
