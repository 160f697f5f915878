import ScadManual.Dict
import ScadManual.Error
import ScadManual.Markup
import ScadManual.Text.Blank

/-!
# Dialects

How each dialect of Markdown spells headers, links, lists, tables and images.  All dialects share the plain
wiki spelling except where they are named: GitHub wikis set images in HTML with the code indented beside
them, and MkDocs sites link to files with their suffix and use small letters for index pages.
-/

namespace ScadManual

/-- A dialect of Markdown. -/
inductive Dialect where
  | wiki
  | githubWiki
  | mkdocs
deriving DecidableEq, Repr

/-- The pages besides those of the source files. -/
inductive IndexPage where
  | contents
  | topics
  | alphabetical
  | cheatSheet
  | sidebar
deriving DecidableEq, Repr

/-- An image with its caption and the code it belongs to. -/
structure Embed where
  /-- The name of what the image shows. -/
  item : String
  title : String
  /-- The caption, already escaped. -/
  subtitle : String
  code : List String
  codeBelow : Bool
  url : Option String
  width : Option Nat
  height : Option Nat
deriving DecidableEq, Repr, Inhabited

namespace Dialect

/-- The name a dialect is chosen by. -/
def name : Dialect → String
  | .wiki => "wiki"
  | .githubWiki => "githubwiki"
  | .mkdocs => "mkdocs"

/-- All dialects, in the order of their names. -/
def all : List Dialect := [.githubWiki, .mkdocs, .wiki]

/-- The dialect of a name. -/
def ofName (name : String) : Except Error Dialect :=
  match all.find? (·.name == name) with
  | some d => .ok d
  | none => .error (.unknownDialect name)

/-- Is there a dialect of the name? -/
def isName (name : String) : Bool :=
  all.any (·.name == name)

/-! ## Pages and links -/

/-- The suffix of page files. -/
def suffix : String := ".md"

/-- The name by which an index page is linked. -/
def pageLink : Dialect → IndexPage → String
  | .mkdocs, .contents => "index"
  | .mkdocs, .topics => "topics"
  | .mkdocs, .alphabetical => "alphaindex"
  | .mkdocs, .cheatSheet => "cheatsheet"
  | .mkdocs, .sidebar => "_sidebar"
  | _, .contents => "TOC"
  | _, .topics => "Topics"
  | _, .alphabetical => "AlphaIndex"
  | _, .cheatSheet => "CheatSheet"
  | _, .sidebar => "_Sidebar"

/-- The file an index page is written to. -/
def pageFile (d : Dialect) (page : IndexPage) : String :=
  d.pageLink page ++ suffix

/-- How a link names a file. -/
def linkFile (d : Dialect) (file : String) : String :=
  match d with
  | .mkdocs => if file.isEmpty then "" else file ++ suffix
  | _ => file

/-- A link to an anchor of a file.  The label is a code span when `literal`, and escaped otherwise. -/
def link (d : Dialect) (label anchor file : String) (literal : Bool) : String :=
  let label := if literal then "`" ++ label ++ "`" else Markup.escape label
  let anchor := if anchor.isEmpty then "" else "#" ++ anchor
  "[" ++ label ++ "](" ++ d.linkFile file ++ anchor ++ ")"

/-- Tags as abbreviations whose text shows under the pointer.  The place of a tag is where `wrap` holds
braces.  With a `file` each tag is a link to it, at its own anchor unless the file names one. -/
def mouseoverTags (tags : Dict) (file : Option String) (element wrap : String) : String :=
  String.join <| tags.entries.map fun (tag, text) =>
    let shown :=
      match Text.splitText "\x7b\x7d" wrap with
      | before :: after :: rest => String.intercalate "\x7b\x7d" ((before ++ tag ++ after) :: rest)
      | _ => wrap
    let body :=
      match file with
      | none => shown
      | some file =>
        if file.toList.contains '#' then "[" ++ shown ++ "](" ++ file ++ ")"
        else "[" ++ shown ++ "](" ++ file ++ "#" ++ Markup.anchor tag ++ ")"
    " <" ++ element ++ " title=\"" ++ text ++ "\">" ++ body ++ "</" ++ element ++ ">"

/-! ## Text -/

/-- Bold text. -/
def bold (s : String) : String := "**" ++ s ++ "**"

/-- Slanted text. -/
def italics (s : String) : String := "*" ++ s ++ "*"

/-- A line that the next one does not continue. -/
def lineBreak (s : String) : String := s ++ "  "

/-- Text in a code element. -/
def codeSpan (s : String) : String := "<code>" ++ s ++ "</code>"

/-- Lines of a quotation. -/
def quote (lines : List String) : List String := lines.map (">" ++ ·)

/-- Lines indented by one step. -/
def indent (lines : List String) : List String := lines.map ("    " ++ ·)

/-- Lines with an empty one behind. -/
def paragraph (lines : List String) : List String := lines ++ [""]

/-- A rule across the page. -/
def horizontalRule : List String := ["---", ""]

/-- A header; its text is escaped when `escape`. -/
def header (text : String) (level : Nat) (escape : Bool) : List String :=
  [Text.times level "#" ++ " " ++ (if escape then Markup.escape text else text), ""]

/-- The line that starts a block; its subtitle is escaped when `escape`. -/
def blockHeader (title subtitle : String) (escape : Bool) : List String :=
  ["**" ++ Markup.escape title ++ ":** " ++ (if escape then Markup.escape subtitle else subtitle), ""]

/-! ## Lists and tables -/

/-- An item of a list. -/
def bullet (s : String) : String := "- " ++ s

/-- A list. -/
def bulletList (items : List String) : List String := paragraph (items.map bullet)

/-- An item of a numbered list. -/
def numbered (n : Nat) (s : String) : String := toString n ++ ". " ++ s

/-- A numbered list. -/
def numberedList (items : List String) : List String :=
  paragraph ((items.zipIdx 1).map fun (s, n) => numbered n s)

/-- Is the column one of names? -/
def isNameColumn (header : String) : Bool := Text.startsWith header "^"

/-- A header without the marks of a column of names. -/
def columnName (header : String) : String :=
  String.ofList (header.toList.dropWhile (· == '^'))

/-- A cell of a column of names: names divided by slashes, each a code span filled up to its width. -/
def nameCell (cell : String) : String :=
  String.intercalate " / " <| (Text.splitAt '/' cell).map fun part =>
    Text.padRight 20 ("`" ++ Text.trim part ++ "`")

/-- A table.  A header that starts with `^` marks a column of names. -/
def table (headers : List String) (rows : List (List String)) : List String :=
  let names := headers.map columnName
  let row (cells : List String) : String :=
    String.intercalate " | " <| cells.zipIdx.map fun (cell, column) =>
      match headers[column]? with
      | some h => if isNameColumn h then nameCell cell else cell
      | none => cell
  [String.intercalate " | " names,
   String.intercalate " | " (names.map fun n => Text.times (min n.length 20) "-")] ++
    rows.map row ++ [""]

/-! ## Images and code -/

/-- A block of code. -/
def codeBlock (d : Dialect) (code : List String) : List String :=
  match d with
  | .githubWiki => paragraph (indent code)
  | _ =>
    if code.isEmpty then []
    else ["``` \x7b.C linenos=True\x7d"] ++ code ++ ["```", ""]

/-- An image. -/
def image (d : Dialect) (e : Embed) (url : String) : List String :=
  match d with
  | .githubWiki =>
    let size :=
      match e.width, e.height with
      | some w, some h => " width=\"" ++ toString w ++ "\" height=\"" ++ toString h ++ "\""
      | some w, none => " width=\"" ++ toString w ++ "\""
      | none, _ => ""
    ["<img align=\"left\" alt=\"" ++ Markup.attributeValue (e.item ++ " " ++ e.title) ++ "\" src=\"" ++
      url ++ "\"" ++ size ++ ">", ""]
  | _ =>
    let alt := Markup.escape e.item ++ " " ++ Markup.escape e.title
    ["![" ++ alt ++ "](" ++ url ++ " \"" ++ alt ++ "\")", ""]

/-- The image of an embedded image, when it has one. -/
def embedImage (d : Dialect) (e : Embed) : List String :=
  match e.url with
  | some url => d.image e url
  | none => []

/-- An image with its caption and code. -/
def imageBlock (d : Dialect) (e : Embed) : List String :=
  match d with
  | .githubWiki =>
    blockHeader e.title e.subtitle false ++ d.embedImage e ++
      (if e.codeBelow then paragraph ["<br clear=\"all\" />"] else []) ++ d.codeBlock e.code ++
      (if e.codeBelow then [] else paragraph ["<br clear=\"all\" /><br/>"])
  | _ =>
    blockHeader e.title e.subtitle false ++
      (if e.codeBelow then [] else d.codeBlock e.code) ++ d.embedImage e ++
      (if e.codeBelow then d.codeBlock e.code else [])

end Dialect

end ScadManual
