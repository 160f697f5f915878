import ScadManual.Document.Basic
import ScadManual.Json

/-!
# Documents as JSON

Every file with the nodes below it.  What is known of a file or an item is in fields of its own, and the
blocks that said so are left out below it.
-/

namespace ScadManual.Document

/-- Titles of blocks that a file's own fields tell of. -/
def fileFieldTitles : List String := ["CommonCode", "Includes"]

/-- Titles of blocks that an item's own fields tell of. -/
def itemFieldTitles : List String :=
  ["Alias", "Aliases", "Arguments", "Description", "See Also", "Synopsis", "SynTags", "Status", "Topics",
   "Usage"]

/-- Is the node one of the examples of its item? -/
def isExampleTitle (title : String) : Bool := Text.startsWith title "Example"

/-- Is a child of the node shown below it? -/
def dumpsChild (d : Document) (kind : Kind) (child : NodeId) : Bool :=
  match kind with
  | .file _ => !fileFieldTitles.contains (d.title child)
  | .item _ => !itemFieldTitles.contains (d.title child) && !isExampleTitle (d.title child)
  | _ => true

/-- The body lines of the children of a title. -/
def titledBodies (d : Document) (id : NodeId) (title : String) : List String :=
  (d.childrenTitled id [title]).flatMap d.body

/-- The fields that tell what is known of a node, in the order of their keys. -/
def dumpFields (d : Document) (id : NodeId) : Kind → List (String × Json)
  | .file info =>
    [("commoncode", .strings info.common),
     ("footnotes", .array (info.footnotes.map fun f =>
       .object [("mark", .string f.mark), ("note", .string f.note)])),
     ("group", .string info.group),
     ("includes", .strings info.includes),
     ("summary", .string info.summary)]
  | .item info =>
    [("aliases", .strings info.aliases),
     ("arguments", .strings (d.titledBodies id "Arguments"))] ++
    (if info.deprecated then [("deprecated", .bool true)] else []) ++
    [("description", .strings (d.titledBodies id "Description")),
     ("examples", .array (((d.children id).filter fun c => isExampleTitle (d.title c)).map fun c =>
       .strings (d.body c))),
     ("see_also", .strings info.seeAlso),
     ("synopsis", .string info.synopsis),
     ("syntags", .object ((info.tags.entries.mergeSort fun a b => !decide (b.1 < a.1)).map
       fun (tag, text) => (tag, .string text))),
     ("topics", .strings info.topics),
     ("usages", .array ((d.childrenTitled id ["Usage"]).map fun c =>
       .object [("body", .strings (d.body c)), ("subtitle", .string (d.subtitle c))]))]
  | .image info => [("imgurl", .string info.url), ("script", .strings info.script)]
  | _ => []

/-- A node and what stands below it. -/
def dumpNode (d : Document) (id : NodeId) : Json :=
  match d.node? id with
  | none => .object []
  | some n =>
    let shown := (d.children id).attach.filter fun c => d.dumpsChild n.kind c.1
    let below := shown.map fun ⟨c, h⟩ =>
      have := sub_lt_of_mem_children h
      d.dumpNode c
    .object
      ([("name", .string n.title), ("subtitle", .string n.subtitle), ("body", .strings n.body),
        ("file", .string n.origin.file), ("line", .number n.origin.line)] ++
        d.dumpFields id n.kind ++
        (if below.isEmpty then [] else [("children", .array below)]))
termination_by d.size - id

/-- The text of the whole document. -/
def dump (d : Document) : String :=
  (Json.array (d.files.map d.dumpNode)).pretty

end ScadManual.Document
