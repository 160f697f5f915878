import ScadManual.Page.Link

/-!
# The page of a source file

A file's page has its text, the blocks right below it, a list of contents, and its sections with their
items.  The blocks of an item come in a fixed order: what identifies it first, examples last.
-/

namespace ScadManual.Page

/-- Levels of headers. -/
def fileLevel : Nat := 1

@[inherit_doc fileLevel]
def sectionLevel : Nat := 2

@[inherit_doc fileLevel]
def subsectionLevel : Nat := 2

@[inherit_doc fileLevel]
def itemLevel : Nat := 3

/-- Beginnings of the titles of blocks that come first on an item. -/
def itemFront : List (List String) :=
  [["Status"], ["Alias"], ["Synopsis"], ["Topics"], ["See Also"], ["Usage"]]

/-- Beginnings of the titles of blocks that come last on an item. -/
def itemBack : List (List String) := [["Example"]]

/-- What stands above the includes. -/
def includesNote : String := "To use, add the following lines to the beginning of your file:"

namespace Setting

/-! ## Blocks -/

/-- Lines of a body with their links written out.  Lines of fenced and of indented code stay as they are,
and a full stop alone stands for an empty line; `fenced` says that a fence is open. -/
def bodyLines (s : Setting) (origin : Origin) (fenced : Bool) : List String → Noted (List String)
  | [] => Noted.of []
  | line :: rest =>
    let fenced := if Text.startsWith line "```" then !fenced else fenced
    let shown :=
      if fenced || Text.startsWith line "    " then Noted.of line
      else if line = "." then Noted.of ""
      else s.links origin line
    let more := s.bodyLines origin fenced rest
    ⟨shown.value :: more.value, shown.findings ++ more.findings⟩

/-- The body of a node. -/
def body (s : Setting) (n : Node) : Noted (List String) :=
  s.bodyLines n.origin false n.body

/-- The line that starts the block of a node. -/
def blockStart (s : Setting) (n : Node) : Noted (List String) :=
  (s.escapedLinks n.origin n.subtitle).map fun sub => Dialect.blockHeader n.title sub false

/-- The tables of a block, each under the header set of its place. -/
def tables (s : Setting) (origin : Origin) (info : TableInfo) : Noted (List String) :=
  Noted.concat <| (info.headerSets.zip info.tables).map fun (headers, rows) =>
    if rows.isEmpty then Noted.of []
    else
      (Noted.all (rows.map fun row => Noted.all (row.map (s.links origin)))).map (Dialect.table headers)

/-- The topics named in a subtitle, as links to the page of topics. -/
def topicLinks (s : Setting) (subtitle : String) : List String :=
  (((Text.splitAt ',' subtitle).map Text.trim).filter (!·.isEmpty)).map fun topic =>
    s.dialect.link topic (Markup.anchor topic) (s.dialect.pageLink .topics) false

/-- The image of a node.  A figure shows no code, and an example that makes no picture shows code only. -/
def imageLines (s : Setting) (n : Node) (info : ImageInfo) : Noted (List String) :=
  if info.isHidden then Noted.of []
  else
    let item := (n.parent.map s.doc.subtitle).getD ""
    let code := if info.kind = .figure then [] else info.code
    let url := if info.kind = .figure || info.render then some info.pageUrl else none
    (s.escapedLinks n.origin n.subtitle).map fun subtitle =>
      s.dialect.imageBlock
        { item, subtitle, code, url
          title := n.title
          codeBelow := (info.request.map (·.scriptUnder)).getD false
          width := info.request.map (·.options.width)
          height := info.request.map (·.options.height) }

/-- The lines of a node that has nothing below it. -/
def leafLines (s : Setting) (id : NodeId) (n : Node) : Noted (List String) :=
  match n.kind with
  | .generic | .label | .text => do
    let start ← s.blockStart n
    let body ← s.body n
    return start ++ body ++ [""]
  | .headerless => (s.body n).map fun body => "" :: body ++ [""]
  | .bulletList => (s.blockStart n).map (· ++ Dialect.bulletList n.body)
  | .numberedList => (s.blockStart n).map (· ++ Dialect.numberedList n.body)
  | .table info => do
    let start ← s.blockStart n
    let tables ← s.tables n.origin info
    return start ++ tables
  | .includes =>
    Noted.of <|
      if n.body.isEmpty then []
      else Dialect.paragraph [includesNote] ++ Dialect.paragraph (Dialect.indent n.body)
  | .synopsis =>
    let tags := (((n.parent.bind s.doc.node?).bind Node.item?).map itemTags).getD ""
    (s.escapedLinks n.origin n.subtitle).map fun sub => Dialect.blockHeader n.title (sub ++ tags) false
  | .topics =>
    Noted.of (Dialect.blockHeader n.title (String.intercalate ", " (s.topicLinks n.subtitle)) false)
  | .seeAlso =>
    let owner := n.parent.getD id
    let names := (((s.doc.node? owner).bind Node.item?).map (·.seeAlso)).getD []
    (s.library.references.seeAlso names owner n.origin).map fun ids =>
      Dialect.blockHeader n.title
        (String.intercalate ", " (ids.map fun i => s.itemLink i (some n.origin.file) none false)) false
  | .image info => s.imageLines n info
  | .tags | .file _ | .section | .subsection | .item _ => Noted.of []

/-! ## Contents -/

/-- The entry of an item in the list of contents. -/
def contentsItem (s : Setting) (current : String) (item : NodeId) : String :=
  Dialect.bullet (s.itemLink item (some current) none true ++ s.synopsis item)

/-- The entry of a section, or of a subsection, which is number `n` of its list. -/
def contentsEntry (s : Setting) (current : String) (id : NodeId) (n : Nat) : List String :=
  let below := ((s.doc.children id).attach.filter fun c => s.isSubsection c.1).zipIdx 1
  let subsections := below.flatMap fun (⟨c, h⟩, k) =>
    have := Document.sub_lt_of_mem_children h
    s.contentsEntry current c k
  let lines :=
    (if below.isEmpty then [] else subsections ++ [""]) ++
      (s.itemsOf id).map (s.contentsItem current)
  if !(s.doc.subtitle id).isEmpty then
    Dialect.numbered n (s.sectionLink id (some current) none) ::
      (if lines.isEmpty then [] else Dialect.paragraph (Dialect.indent lines))
  else if lines.isEmpty then []
  else Dialect.paragraph lines
termination_by s.doc.size - id

/-! ## Nodes -/

/-- Children in display order are children. -/
theorem mem_children_of_sorted {d : Document} {id c : NodeId} {front back : List (List String)}
    (h : c ∈ d.sortedChildren id front back) : c ∈ d.children id := by
  simp only [Document.sortedChildren, Document.childrenStarting, List.mem_append, List.mem_flatMap,
    List.mem_filter] at h
  rcases h with (⟨_, _, h, _⟩ | ⟨h, _⟩) | ⟨_, _, h, _⟩ <;> exact h

/-- The lines of a node and of everything below it. -/
def nodeLines (s : Setting) (id : NodeId) : Noted (List String) :=
  match s.doc.node? id with
  | none => Noted.of []
  | some n =>
    let below := (s.doc.children id).attach
    let child (c : { c // c ∈ s.doc.children id }) : Noted (List String) :=
      have := Document.sub_lt_of_mem_children c.2
      s.nodeLines c.1
    match n.kind with
    | .file _ =>
      let sections := below.filter fun c => s.isSection c.1
      let contents := (sections.zipIdx 1).flatMap fun (c, k) =>
        s.contentsEntry n.origin.file c.1 k
      Noted.concat
        [Noted.of (Dialect.header n.displayName fileLevel true),
         (s.body n).map Dialect.paragraph,
         Noted.concat ((below.filter fun c => !s.isSection c.1).map child),
         Noted.of (Dialect.header "File Contents" sectionLevel true ++ contents ++ [""]),
         Noted.concat (sections.map child)]
    | .section | .subsection =>
      let level := if n.kind = .section then sectionLevel else subsectionLevel
      Noted.concat
        [if n.subtitle.isEmpty then Noted.of []
         else
          (s.body n).map fun body =>
            Dialect.header n.displayName level true ++ Dialect.paragraph body,
         Noted.concat (below.map child)]
    | .item _ =>
      let sorted := (s.doc.sortedChildren id itemFront itemBack).attach
      Noted.concat
        [Noted.of (Dialect.header n.displayName itemLevel true),
         Noted.concat (sorted.map fun c => child ⟨c.1, mem_children_of_sorted c.2⟩),
         Noted.of Dialect.horizontalRule]
    | _ => s.leafLines id n
termination_by s.doc.size - id

/-- The page of a file. -/
def filePage (s : Setting) (file : NodeId) : Noted (List String) :=
  s.nodeLines file

end Setting

end ScadManual.Page
