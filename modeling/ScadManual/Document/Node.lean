import ScadManual.Dict
import ScadManual.Origin
import ScadManual.Render.Request

/-!
# Nodes

A node is a block that has found its place: what kind of block it is, what it says, where it stands in its
source and which node it stands below.
-/

namespace ScadManual

/-- Nodes are numbered in the order in which they are made. -/
abbrev NodeId := Nat

/-- A footnote of a source file. -/
structure Footnote where
  mark : String
  note : String
  origin : Origin
deriving DecidableEq, Repr

/-- What is known of a source file. -/
structure FileInfo where
  /-- Lines in front of every script of the file. -/
  includes : List String
  /-- Lines after the includes, which no page shows. -/
  common : List String
  summary : String
  group : String
  footnotes : List Footnote
deriving DecidableEq, Repr

/-- A file of which nothing is known. -/
def FileInfo.empty : FileInfo := ⟨[], [], "", "", []⟩

/-- What is known of an item. -/
structure ItemInfo where
  aliases : List String
  topics : List String
  seeAlso : List String
  deprecated : Bool
  synopsis : String
  tags : Dict
  /-- The number of examples made below the item so far. -/
  examples : Nat
deriving DecidableEq, Repr

/-- An item of which nothing is known. -/
def ItemInfo.empty : ItemInfo := ⟨[], [], [], false, "", Dict.empty, 0⟩

/-- The tables of a block: rows of cells, for the header sets in order. -/
structure TableInfo where
  headerSets : List (List String)
  tables : List (List (List String))
deriving DecidableEq, Repr

/-- The two kinds of images. -/
inductive ImageKind where
  | figure
  | example
deriving DecidableEq, Repr

/-- What is known of an image. -/
structure ImageInfo where
  kind : ImageKind
  number : Nat
  metadata : String
  script : List String
  code : List String
  /-- Where the image is, seen from its page. -/
  pageUrl : String
  /-- Where the image is, seen from the directory of all pages. -/
  url : String
  /-- Does the block make a picture at all? -/
  render : Bool
  request : Option Render.Request
deriving DecidableEq, Repr

/-- Is the image left out of its page? -/
def ImageInfo.isHidden (i : ImageInfo) : Bool :=
  Text.contains i.metadata "Hide"

/-- What a node is. -/
inductive Kind where
  | file (info : FileInfo)
  | section
  | subsection
  | item (info : ItemInfo)
  | generic
  | label
  | text
  | headerless
  | bulletList
  | numberedList
  | table (info : TableInfo)
  | image (info : ImageInfo)
  | includes
  | synopsis
  | tags
  | topics
  | seeAlso
deriving DecidableEq, Repr

/-- A node. -/
structure Node where
  kind : Kind
  title : String
  subtitle : String
  body : List String
  origin : Origin
  /-- The number of figures made below the node so far. -/
  figures : Nat
  parent : Option NodeId
deriving DecidableEq, Repr

/-- Titles that declare an item. -/
def itemTitles : List String := ["Constant", "Function", "Module", "Function&Module"]

/-- The short word for what an item is. -/
def itemLabel (title : String) : String :=
  match title with
  | "Function" => "Func"
  | "Module" => "Mod"
  | "Function&Module" => "Func/Mod"
  | "Constant" => "Const"
  | other => other

/-- The characters with what stands between an opening parenthesis and the next closing one taken out. -/
def collapseArgs (cs : List Char) : List Char :=
  match cs with
  | [] => []
  | '(' :: rest =>
    match h : Text.cutChars? ')' rest with
    | some (_, after) =>
      have := Text.length_lt_of_cutChars? h
      '(' :: ')' :: collapseArgs after
    | none => '(' :: collapseArgs rest
  | c :: rest => c :: collapseArgs rest
termination_by cs.length
decreasing_by all_goals grind

namespace Node

/-- What is known of a file. -/
def file? (n : Node) : Option FileInfo :=
  match n.kind with
  | .file info => some info
  | _ => none

/-- What is known of an item. -/
def item? (n : Node) : Option ItemInfo :=
  match n.kind with
  | .item info => some info
  | _ => none

/-- What is known of an image. -/
def image? (n : Node) : Option ImageInfo :=
  match n.kind with
  | .image info => some info
  | _ => none

/-- Is the node an item? -/
def isItem (n : Node) : Bool := n.item?.isSome

/-- Is the node a file? -/
def isFile (n : Node) : Bool := n.file?.isSome

/-- The number of images of a kind made below the node so far; only items count examples. -/
def counted (n : Node) : ImageKind → Nat
  | .figure => n.figures
  | .example => (n.item?.map (·.examples)).getD 0

/-- The node with other knowledge of the file that it is. -/
def withFile (n : Node) (f : FileInfo → FileInfo) : Node :=
  match n.kind with
  | .file info => { n with kind := .file (f info) }
  | _ => n

/-- The node with other knowledge of the item that it is. -/
def withItem (n : Node) (f : ItemInfo → ItemInfo) : Node :=
  match n.kind with
  | .item info => { n with kind := .item (f info) }
  | _ => n

/-- The node when one more image of a kind is made below it. -/
def counting (n : Node) : ImageKind → Node
  | .figure => { n with figures := n.figures + 1 }
  | .example => n.withItem fun info => { info with examples := info.examples + 1 }

theorem withItem_of_kind {n : Node} {info : ItemInfo} (h : n.kind = .item info) (f : ItemInfo → ItemInfo) :
    n.withItem f = { n with kind := .item (f info) } := by
  rw [withItem, h]

@[simp] theorem parent_withFile (n : Node) (f : FileInfo → FileInfo) : (n.withFile f).parent = n.parent := by
  unfold withFile
  split <;> rfl

@[simp] theorem parent_withItem (n : Node) (f : ItemInfo → ItemInfo) : (n.withItem f).parent = n.parent := by
  unfold withItem
  split <;> rfl

@[simp] theorem parent_counting (n : Node) (kind : ImageKind) : (n.counting kind).parent = n.parent :=
  match kind with
  | .figure => rfl
  | .example => parent_withItem n _

/-- The name people read: the title with `/` for `&`, then the subtitle, of an item with its arguments
left out. -/
def displayName (n : Node) : String :=
  Text.replaceChar n.title '&' "/" ++ ": " ++
    if n.isItem then String.ofList (collapseArgs n.subtitle.toList) else n.subtitle

end Node

end ScadManual
