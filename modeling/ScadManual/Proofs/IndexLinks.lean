import ScadManual.Proofs.Anchors
import ScadManual.Proofs.Names
import ScadManual.Proofs.Sorting
import ScadManual.Run.Documentation

/-!
# Links on index pages

The table of contents and the indexes of names and topics list items line by line.  A line is taken apart into
plain text and links to items, each with the page it is thought to stand on: the link of the listed item is
thought to stand on the index page, and the links of its synopsis on the page of the item's own file.  A link
leaves out the name of a file just when it is thought to stand on the page of that file, so on an index page the
links of a synopsis to items of the same file name no file.
-/

namespace ScadManual

namespace Page

/-! ## Lines with links -/

/-- A link to an item, and the page it is thought to stand on. -/
structure ItemLink where
  target : NodeId
  seenFrom : String
deriving DecidableEq, Repr

/-- A piece of a line. -/
inductive Piece where
  | text (s : String)
  | link (l : ItemLink)
deriving DecidableEq, Repr

/-- The link that a piece is. -/
def Piece.link? : Piece → Option ItemLink
  | .text _ => none
  | .link l => some l

@[simp]
theorem Piece.link?_text (s : String) : (text s).link? = none := rfl

@[simp]
theorem Piece.link?_link (l : ItemLink) : (link l).link? = some l := rfl

/-- The links of lines, in order. -/
def linksOf (lines : List (List Piece)) : List ItemLink :=
  lines.flatMap (·.filterMap Piece.link?)

/-- Lines without links. -/
def plain (lines : List String) : List (List Piece) := lines.map fun l => [.text l]

/-- Lines behind the same text. -/
def behind (text : String) (lines : List (List Piece)) : List (List Piece) := lines.map (.text text :: ·)

/-- Lines as the items of a list. -/
def bullets (lines : List (List Piece)) : List (List Piece) := behind "- " lines ++ plain [""]

section Links

variable (lines more : List (List Piece))

@[simp]
theorem linksOf_nil : linksOf [] = [] := rfl

@[simp]
theorem linksOf_append : linksOf (lines ++ more) = linksOf lines ++ linksOf more := List.flatMap_append

@[simp]
theorem linksOf_plain (texts : List String) : linksOf (plain texts) = [] := by
  simp [linksOf, plain, List.flatMap_map]

@[simp]
theorem linksOf_behind (text : String) : linksOf (behind text lines) = linksOf lines := by
  simp [linksOf, behind, List.flatMap_map, List.filterMap_cons]

@[simp]
theorem linksOf_bullets : linksOf (bullets lines) = linksOf lines := by simp [bullets]

theorem linksOf_flatMap {α : Type} (xs : List α) (f : α → List (List Piece)) :
    linksOf (xs.flatMap f) = xs.flatMap fun x => linksOf (f x) := List.flatMap_assoc

end Links

namespace Setting

variable (s : Setting)

/-- A link written out. -/
def spellLink (l : ItemLink) : String := s.itemLink l.target (some l.seenFrom) none true

/-- A piece written out. -/
def spell : Piece → String
  | .text t => t
  | .link l => s.spellLink l

@[simp]
theorem spell_text (t : String) : s.spell (.text t) = t := rfl

@[simp]
theorem spell_link (l : ItemLink) : s.spell (.link l) = s.spellLink l := rfl

/-- Lines written out. -/
def written (lines : List (List Piece)) : List String :=
  lines.map fun line => String.join (line.map s.spell)

section Written

variable (lines more : List (List Piece))

@[simp]
theorem written_nil : s.written [] = [] := rfl

@[simp]
theorem written_append : s.written (lines ++ more) = s.written lines ++ s.written more := List.map_append

@[simp]
theorem written_plain (texts : List String) : s.written (plain texts) = texts := by
  simp [written, plain, Function.comp_def]

@[simp]
theorem written_indent : s.written (behind "    " lines) = Dialect.indent (s.written lines) := by
  simp [written, behind, Dialect.indent, Function.comp_def]

@[simp]
theorem written_bullets : s.written (bullets lines) = Dialect.bulletList (s.written lines) := by
  simp [written, bullets, behind, plain, Dialect.bulletList, Dialect.bullet, Dialect.paragraph,
    Function.comp_def]

theorem written_flatMap {α : Type} (xs : List α) (f : α → List (List Piece)) :
    s.written (xs.flatMap f) = xs.flatMap fun x => s.written (f x) := List.map_flatMap

end Written

/-! ## The line of an item -/

/-- What a name between braces becomes on the page of `file`. -/
def referencePiece (file name : String) : Piece :=
  match s.library.references.get? name with
  | some id => .link ⟨id, file⟩
  | none => .text (Markup.escape name)

/-- A synopsis, cut at its links. -/
def synopsisPieces (file text : String) : List Piece :=
  let c := Link.cut text.toList
  .text (Markup.escape (String.ofList c.head)) :: c.links.flatMap fun (name, after) =>
    [s.referencePiece file (String.ofList name), .text (Markup.escape (String.ofList after))]

/-- The line of an item on the page `current`. -/
def entry (current : String) (id : NodeId) : List Piece :=
  [.link ⟨id, current⟩, .text (" " ++ itemLabel (s.doc.title id))] ++
    match s.doc.node? id with
    | none => []
    | some n =>
      match n.item? with
      | none => []
      | some info =>
        .text (if info.synopsis.isEmpty && info.tags.isEmpty then "" else " – ") ::
          (s.synopsisPieces n.origin.file info.synopsis ++ [.text (itemTags info)])

/-- The items that a text links to. -/
def mentions (text : String) : List NodeId :=
  (Link.cut text.toList).links.filterMap fun l => s.library.references.get? (String.ofList l.1)

/-- The links on the line of an item: its own, and those of its synopsis. -/
def entryLinks (current : String) (id : NodeId) : List ItemLink :=
  ⟨id, current⟩ ::
    match s.doc.node? id with
    | none => []
    | some n =>
      match n.item? with
      | none => []
      | some info => (s.mentions info.synopsis).map (⟨·, n.origin.file⟩)

theorem spell_referencePiece (file name : String) :
    s.spell (s.referencePiece file name) =
      Link.renderLink s.library.references Markup.escape
        (fun item => s.itemLink item (some file) none true) name := by
  rw [referencePiece, Link.renderLink]
  cases s.library.references.get? name <;> rfl

theorem link?_referencePiece (file name : String) :
    (s.referencePiece file name).link? =
      (s.library.references.get? name).map fun id => (⟨id, file⟩ : ItemLink) := by
  rw [referencePiece]
  cases s.library.references.get? name <;> rfl

theorem written_synopsisPieces (file text : String) :
    String.join ((s.synopsisPieces file text).map s.spell) =
      Link.render s.library.references Markup.escape
        (fun item => s.itemLink item (some file) none true) text := by
  simp only [synopsisPieces, Link.render, List.map_cons, String.join_cons, List.map_flatMap]
  congr 1
  induction (Link.cut text.toList).links with
  | nil => rfl
  | cons l ls ih =>
    rw [List.flatMap_cons, String.join_append, ih, List.map_cons, String.join_cons]
    simp [spell_referencePiece]

theorem links_synopsisPieces (file text : String) :
    (s.synopsisPieces file text).filterMap Piece.link? = (s.mentions text).map (⟨·, file⟩) := by
  simp only [synopsisPieces, mentions]
  rw [List.filterMap_cons_none rfl]
  induction (Link.cut text.toList).links with
  | nil => rfl
  | cons l ls ih =>
    rw [List.flatMap_cons, List.filterMap_append, ih]
    cases hget : s.library.references.get? (String.ofList l.1) with
    | none => simp [link?_referencePiece, hget, List.filterMap_cons]
    | some id => simp [link?_referencePiece, hget, List.filterMap_cons]

/-- The line of an item is the one that index pages show. -/
theorem written_entry (current : String) (id : NodeId) :
    String.join ((s.entry current id).map s.spell) = s.indexLine id current := by
  rw [entry, indexLine, synopsis, List.map_append, String.join_append]
  congr 1
  · simp [spellLink, String.append_assoc]
  · cases s.doc.node? id with
    | none => rfl
    | some n =>
      cases hi : n.item? with
      | none => simp only [hi]; rfl
      | some info =>
        simp only [hi, List.map_cons, List.map_append, String.join_cons, String.join_append,
          written_synopsisPieces]
        simp [String.append_assoc]

theorem links_entry (current : String) (id : NodeId) :
    (s.entry current id).filterMap Piece.link? = s.entryLinks current id := by
  rw [entry, entryLinks, List.filterMap_append]
  cases s.doc.node? id with
  | none => rfl
  | some n =>
    cases hi : n.item? with
    | none => simp only [hi]; rfl
    | some info =>
      simp [hi, List.filterMap_cons, links_synopsisPieces]

theorem written_entries (current : String) (ids : List NodeId) :
    s.written (ids.map (s.entry current)) = ids.map fun id => s.indexLine id current := by
  simp [written, written_entry]

theorem linksOf_entries (current : String) (ids : List NodeId) :
    linksOf (ids.map (s.entry current)) = ids.flatMap (s.entryLinks current) := by
  simp [linksOf, List.flatMap_map, links_entry]

/-! ## Pages -/

/-- The lines of a subsection, with its items. -/
def subsectionPieces (current : String) (id : NodeId) : List (List Piece) :=
  plain [Dialect.bullet (s.sectionLink id (some current) (some (s.doc.subtitle id)))] ++
    if (s.itemsOf id).isEmpty then []
    else behind "    " (bullets ((s.itemsOf id).map (s.entry current)))

/-- The lines of a section, with its subsections and items. -/
def sectionPieces (current : String) (id : NodeId) : List (List Piece) :=
  let subsections := s.subsectionsOf id
  let start :=
    if (s.doc.subtitle id).isEmpty then subsections.flatMap (s.subsectionPieces current)
    else
      plain [Dialect.lineBreak (Dialect.bullet
          (s.sectionLink id (some current) (some (s.doc.subtitle id))))] ++
        if subsections.isEmpty then []
        else (subsections.flatMap fun c => behind "    " (s.subsectionPieces current c)) ++ plain [""]
  start ++ behind "    " (bullets ((s.itemsOf id).map (s.entry current)))

/-- The sections of a file. -/
def sectionsOf (file : NodeId) : List NodeId := (s.doc.children file).filter s.isSection

/-- The lines of a file, which is number `number`, with its sections. -/
def filePieces (current : String) (file : NodeId) (number : Nat) : List (List Piece) :=
  let info := ((s.doc.node? file).bind Node.file?).getD FileInfo.empty
  plain (Dialect.header (toString number ++ ". " ++ s.fileLink file (some current) (s.doc.subtitle file))
      sectionLevel false ++
    (if info.summary.isEmpty then [] else [Dialect.lineBreak info.summary]) ++
    info.footnotes.map (fun f => Dialect.lineBreak (Dialect.italics f.note))) ++
    (s.sectionsOf file).flatMap (s.sectionPieces current) ++ plain [""]

theorem written_subsectionPieces (current : String) (id : NodeId) :
    s.written (s.subsectionPieces current id) = s.subsectionLines current id := by
  simp only [subsectionPieces, subsectionLines, itemLines, written_append, written_plain, List.isEmpty_map]
  split
  · rfl
  · simp [written_entries]

theorem linksOf_subsectionPieces (current : String) (id : NodeId) :
    linksOf (s.subsectionPieces current id) = (s.itemsOf id).flatMap (s.entryLinks current) := by
  rw [subsectionPieces, linksOf_append, linksOf_plain, List.nil_append]
  split
  · next hempty => rw [List.isEmpty_iff.1 hempty]; rfl
  · simp [linksOf_entries]

theorem written_sectionPieces (current : String) (id : NodeId) :
    s.written (s.sectionPieces current id) = s.sectionLines current id := by
  simp only [sectionPieces, sectionLines, written_append, written_indent, written_bullets, written_entries]
  congr 1
  split
  · simp [written_flatMap, written_subsectionPieces]
  · rw [written_append, written_plain]
    split
    · rfl
    · simp [written_flatMap, written_subsectionPieces, Dialect.paragraph]

theorem linksOf_sectionPieces (current : String) (id : NodeId) :
    linksOf (s.sectionPieces current id) =
      ((s.subsectionsOf id).flatMap s.itemsOf ++ s.itemsOf id).flatMap (s.entryLinks current) := by
  simp only [sectionPieces, linksOf_append, linksOf_behind, linksOf_bullets, linksOf_entries,
    List.flatMap_append, List.flatMap_assoc]
  congr 1
  split
  · simp [linksOf_flatMap, linksOf_subsectionPieces]
  · rw [linksOf_append, linksOf_plain, List.nil_append]
    split
    · next hempty => rw [List.isEmpty_iff.1 hempty]; rfl
    · simp [linksOf_flatMap, linksOf_subsectionPieces]

theorem written_filePieces (current : String) (file : NodeId) (number : Nat) :
    s.written (s.filePieces current file number) = s.fileLines current file number := by
  simp [filePieces, fileLines, sectionsOf, written_flatMap, written_sectionPieces]

theorem linksOf_filePieces (current : String) (file : NodeId) (number : Nat) :
    linksOf (s.filePieces current file number) =
      ((s.sectionsOf file).flatMap fun sec =>
        (s.subsectionsOf sec).flatMap s.itemsOf ++ s.itemsOf sec).flatMap (s.entryLinks current) := by
  simp [filePieces, linksOf_flatMap, linksOf_sectionPieces, List.flatMap_assoc]

end Setting

/-- The index pages that list items line by line. -/
inductive Listing where
  | contents
  | alphabetical
  | topics
deriving DecidableEq, Repr

/-- The page of a listing. -/
def Listing.page : Listing → IndexPage
  | .contents => .contents
  | .alphabetical => .alphabetical
  | .topics => .topics

namespace Setting

variable (s : Setting) (files : List NodeId)

/-- The letters under which names are listed. -/
def nameLetters : List String := Text.sortedDistinct (s.indexedNames.map fun p => indexLetter p.1)

/-- The items listed under a letter. -/
def itemsUnder (letter : String) : List NodeId :=
  (s.indexedNames.filter fun p => indexLetter p.1 == letter).map (·.2)

/-- The topics, in the order of the page. -/
def topicsInOrder : List String := s.topicsByLetter.flatMap (·.2)

/-- The items that a page lists, one for each line. -/
def listed : Listing → List NodeId
  | .contents => files.flatMap fun file => (s.sectionsOf file).flatMap fun sec =>
    (s.subsectionsOf sec).flatMap s.itemsOf ++ s.itemsOf sec
  | .alphabetical => s.nameLetters.flatMap s.itemsUnder
  | .topics => s.topicsInOrder.flatMap s.topicItems

/-- The lines of a page that come before those of the items. -/
def opening : Listing → List String
  | .contents =>
    let notes := (s.allFootnotes files).value
    Dialect.header "Table of Contents" fileLevel true ++
      Dialect.header "List of Files" sectionLevel true ++
      (s.groups files).flatMap (fun group =>
        Dialect.blockHeader (groupTitle group) "" true ++
          (s.groupMembers files group).flatMap (fun (number, n, info) => s.groupLines number n info) ++
          [""]) ++
      (if notes.isEmpty then []
       else
        [""] ++ Dialect.header "File Footnotes:" subsectionLevel true ++ footnoteLines notes ++ [""])
  | .alphabetical =>
    Dialect.header "Alphabetical Index" fileLevel true ++
      Dialect.paragraph ["An index of Functions, Modules, and Constants by name."] ++
      Dialect.paragraph
        [String.intercalate "  " (s.nameLetters.map fun l => s.dialect.link l l "" false)]
  | .topics =>
    Dialect.header "Topic Index" fileLevel true ++
      Dialect.paragraph ["An index of topics, with related functions, modules, and constants."] ++
      s.topicsByLetter.flatMap (fun (letter, topics) =>
        let links := topics.map fun topic => s.dialect.link topic (Markup.anchor topic) "" false
        Dialect.paragraph [Dialect.bold letter ++ ": " ++ String.intercalate ", " links])

/-- The lines of a page with its items, on the page `current`. -/
def itemPieces (current : String) : Listing → List (List Piece)
  | .contents => (files.zipIdx 1).flatMap fun (file, number) => s.filePieces current file number
  | .alphabetical => s.nameLetters.flatMap fun letter =>
    plain (Dialect.header letter subsectionLevel true) ++
      bullets ((s.itemsUnder letter).map (s.entry current))
  | .topics => s.topicsInOrder.flatMap fun topic =>
    plain (Dialect.header topic itemLevel true) ++ bullets ((s.topicItems topic).map (s.entry current))

/-- The lines of a page. -/
def pagePieces (listing : Listing) : List (List Piece) :=
  plain (s.opening files listing) ++ s.itemPieces files (s.dialect.pageFile listing.page) listing

/-- The lines are those of the page. -/
theorem written_pagePieces (m : Manual) (listing : Listing) :
    s.written (s.pagePieces m.filesByPriority listing) =
      (Documentation.indexLines m s listing.page).value := by
  rw [pagePieces, written_append, written_plain]
  cases listing with
  | contents =>
    simp only [itemPieces, written_flatMap, written_filePieces]
    rfl
  | alphabetical =>
    simp only [itemPieces, written_flatMap, written_append, written_plain, written_bullets, written_entries]
    simp only [itemsUnder, List.map_map]
    rfl
  | topics =>
    simp only [itemPieces, written_flatMap, written_append, written_plain, written_bullets, written_entries]
    rfl

/-- The links of a page are those on the lines of its items. -/
theorem linksOf_pagePieces (listing : Listing) :
    linksOf (s.pagePieces files listing) =
      (s.listed files listing).flatMap (s.entryLinks (s.dialect.pageFile listing.page)) := by
  rw [pagePieces, linksOf_append, linksOf_plain, List.nil_append]
  cases listing with
  | contents =>
    simp only [itemPieces, linksOf_flatMap, linksOf_filePieces, listed]
    rw [List.flatMap_assoc]
    conv =>
      rhs
      rw [← List.zipIdx_map_fst 1 files, List.flatMap_map]
  | alphabetical => simp [itemPieces, linksOf_flatMap, linksOf_entries, listed, List.flatMap_assoc]
  | topics => simp [itemPieces, linksOf_flatMap, linksOf_entries, listed, List.flatMap_assoc]

/-! ## The items of a page -/

variable {s files} {id : NodeId}

theorem mem_items : id ∈ s.doc.items ↔ ∃ n info, s.doc.node? id = some n ∧ n.item? = some info := by
  rw [Document.items, List.mem_filter, List.mem_range]
  constructor
  · rintro ⟨-, hitem⟩
    obtain ⟨n, hn, hitem⟩ := (Option.any_eq_true _ _).1 hitem
    obtain ⟨info, hinfo⟩ := Option.isSome_iff_exists.1 hitem
    exact ⟨n, info, hn, hinfo⟩
  · rintro ⟨n, info, hn, hinfo⟩
    refine ⟨Document.lt_size_of_node? hn, ?_⟩
    rw [hn]
    exact Option.isSome_iff_exists.2 ⟨info, hinfo⟩

theorem subtitle_mem_namesOf : s.doc.subtitle id ∈ s.namesOf id := List.mem_cons_self

/-- Every item is listed by name, at least by its own. -/
theorem mem_listed_alphabetical : id ∈ s.listed files .alphabetical ↔ id ∈ s.doc.items := by
  have hnamed : ∀ {p : String × NodeId}, p ∈ s.indexedNames ↔ p.2 ∈ s.doc.items ∧ p.1 ∈ s.namesOf p.2 := by
    intro p
    rw [indexedNames, byName, Text.mem_sortBy, List.mem_flatMap]
    constructor
    · rintro ⟨item, hitem, hp⟩
      obtain ⟨name, hname, rfl⟩ := List.mem_map.1 hp
      exact ⟨hitem, hname⟩
    · rintro ⟨hitem, hname⟩
      exact ⟨p.2, hitem, List.mem_map.2 ⟨p.1, hname, rfl⟩⟩
  simp only [listed, nameLetters, itemsUnder, List.mem_flatMap, List.mem_map, List.mem_filter,
    Text.mem_sortedDistinct, hnamed]
  constructor
  · rintro ⟨_, -, p, ⟨⟨hitem, -⟩, -⟩, rfl⟩
    exact hitem
  · intro hid
    let p : String × NodeId := (s.doc.subtitle id, id)
    exact ⟨indexLetter p.1, ⟨p, ⟨hid, subtitle_mem_namesOf⟩, rfl⟩, p,
      ⟨⟨hid, subtitle_mem_namesOf⟩, beq_self_eq_true _⟩, rfl⟩

theorem mem_topicEntries {topic name : String} :
    (topic, name, id) ∈ s.topicEntries ↔
      (∃ n info, s.doc.node? id = some n ∧ n.item? = some info ∧ topic ∈ info.topics) ∧
        name ∈ s.namesOf id := by
  simp only [topicEntries, List.mem_flatMap, List.mem_map]
  constructor
  · rintro ⟨item, hitem, topic', htopic, name', hname, hsame⟩
    obtain ⟨rfl, rfl, rfl⟩ : topic' = topic ∧ name' = name ∧ item = id := by simpa using hsame
    obtain ⟨n, info, hn, hinfo⟩ := mem_items.1 hitem
    rw [hn, Option.bind_some, hinfo] at htopic
    exact ⟨⟨n, info, hn, hinfo, htopic⟩, hname⟩
  · rintro ⟨⟨n, info, hn, hinfo, htopic⟩, hname⟩
    refine ⟨id, mem_items.2 ⟨n, info, hn, hinfo⟩, topic, ?_, name, hname, rfl⟩
    rw [hn, Option.bind_some, hinfo]
    exact htopic

theorem mem_topicsInOrder {topic : String} :
    topic ∈ s.topicsInOrder ↔ ∃ name id, (topic, name, id) ∈ s.topicEntries := by
  have htopics : topic ∈ Text.sortedDistinct (s.topicEntries.map (·.1)) ↔
      ∃ name id, (topic, name, id) ∈ s.topicEntries := by
    rw [Text.mem_sortedDistinct, List.mem_map]
    constructor
    · rintro ⟨⟨_, name, id⟩, hentry, rfl⟩
      exact ⟨name, id, hentry⟩
    · rintro ⟨name, id, hentry⟩
      exact ⟨_, hentry, rfl⟩
  rw [← htopics, topicsInOrder, topicsByLetter, List.flatMap_map, List.mem_flatMap]
  constructor
  · rintro ⟨_, -, htopic⟩
    exact (List.mem_filter.1 htopic).1
  · intro htopic
    exact ⟨indexLetter topic, Text.mem_sortedDistinct.2 (List.mem_map_of_mem htopic),
      List.mem_filter.2 ⟨htopic, beq_self_eq_true _⟩⟩

theorem mem_topicItems {topic : String} :
    id ∈ s.topicItems topic ↔ ∃ name, (topic, name, id) ∈ s.topicEntries := by
  simp only [topicItems, byName, List.mem_map, Text.mem_sortBy, List.mem_filter, beq_iff_eq]
  constructor
  · rintro ⟨_, ⟨⟨_, name, _⟩, ⟨hentry, rfl⟩, rfl⟩, rfl⟩
    exact ⟨name, hentry⟩
  · rintro ⟨name, hentry⟩
    exact ⟨(name, id), ⟨_, ⟨hentry, rfl⟩, rfl⟩, rfl⟩

/-- The items of some topic are those listed by topic. -/
theorem mem_listed_topics : id ∈ s.listed files .topics ↔
    ∃ n info, s.doc.node? id = some n ∧ n.item? = some info ∧ info.topics ≠ [] := by
  simp only [listed, List.mem_flatMap, mem_topicsInOrder, mem_topicItems]
  constructor
  · rintro ⟨topic, -, name, hentry⟩
    obtain ⟨⟨n, info, hn, hinfo, htopic⟩, -⟩ := mem_topicEntries.1 hentry
    exact ⟨n, info, hn, hinfo, List.ne_nil_of_mem htopic⟩
  · rintro ⟨n, info, hn, hinfo, htopics⟩
    obtain ⟨topic, htopic⟩ := List.exists_mem_of_ne_nil _ htopics
    have hentry : (topic, s.doc.subtitle id, id) ∈ s.topicEntries :=
      mem_topicEntries.2 ⟨⟨n, info, hn, hinfo, htopic⟩, subtitle_mem_namesOf⟩
    exact ⟨topic, ⟨_, _, hentry⟩, _, hentry⟩

theorem mem_items_of_mem_itemsOf {parent : NodeId} (h : id ∈ s.itemsOf parent) : id ∈ s.doc.items := by
  obtain ⟨hchild, hitem⟩ := List.mem_filter.1 h
  exact List.mem_filter.2 ⟨List.mem_range.2 (Document.mem_children.1 hchild).1, hitem⟩

/-- Every item stands in a section of a file and so is among the contents. -/
theorem mem_listed_contents (hd : s.doc.Forest) (hfiles : s.doc.files ⊆ files) :
    id ∈ s.listed files .contents ↔ id ∈ s.doc.items := by
  simp only [listed, List.mem_flatMap, List.mem_append]
  constructor
  · rintro ⟨_, -, _, -, ⟨_, -, hid⟩ | hid⟩
    · exact mem_items_of_mem_itemsOf hid
    · exact mem_items_of_mem_itemsOf hid
  · intro hid
    obtain ⟨n, info, hn, hinfo⟩ := mem_items.1 hid
    have hitem : n.isItem = true := Option.isSome_iff_exists.2 ⟨info, hinfo⟩
    obtain ⟨sec, sn, -, -, hsn, hsection, hsec, -, -, hfile⟩ := hd.section_of_item hn hitem
    obtain ⟨-, hroot, -⟩ := hd.fileOf_spec id (Document.lt_size_of_node? hn)
    have hisSection : s.isSection sec = true := by simp [isSection, hsn, hsection]
    refine ⟨_, hfiles hroot, sec, List.mem_filter.2 ⟨hfile, hisSection⟩, .inr ?_⟩
    refine List.mem_filter.2 ⟨hsec, ?_⟩
    rw [hn]
    exact hitem

/-- The items that a page lists: all of them, but the index of topics only those of some topic. -/
theorem mem_listed (hd : s.doc.Forest) (hfiles : s.doc.files ⊆ files) (listing : Listing) :
    id ∈ s.listed files listing ↔ ∃ n info, s.doc.node? id = some n ∧ n.item? = some info ∧
      (listing = .topics → info.topics ≠ []) := by
  cases listing with
  | contents =>
    rw [mem_listed_contents hd hfiles, mem_items]
    simp
  | alphabetical =>
    rw [mem_listed_alphabetical, mem_items]
    simp
  | topics =>
    rw [mem_listed_topics]
    simp

/-! ## What the links lead to -/

/-- The line of an item links to items only: to the item, and to what the names in its synopsis stand for. -/
theorem target_mem_items (hrefs : ∀ name item, s.library.references.get? name = some item → item ∈ s.doc.items)
    (hid : id ∈ s.doc.items) {current : String} {l : ItemLink} (hl : l ∈ s.entryLinks current id) :
    l.target ∈ s.doc.items := by
  rcases List.mem_cons.1 hl with rfl | hl
  · exact hid
  · obtain ⟨n, info, hn, hinfo⟩ := mem_items.1 hid
    simp only [hn, hinfo] at hl
    obtain ⟨target, htarget, rfl⟩ := List.mem_map.1 hl
    obtain ⟨name, -, hget⟩ := List.mem_filterMap.1 htarget
    exact hrefs _ _ hget

theorem spellLink_of_node? {l : ItemLink} {n : Node} (hn : s.doc.node? l.target = some n) :
    s.spellLink l = s.dialect.link n.subtitle n.linkAnchor
      (if l.seenFrom = n.origin.file then "" else n.origin.file) true :=
  itemLink_of_node? hn _ _ _

theorem files_subset_filesByPriority (m : Manual) : m.document.files ⊆ m.filesByPriority := by
  intro file hfile
  rw [Manual.filesByPriority, List.mem_eraseDups]
  exact List.mem_append_right _ hfile

/-- **Which file the links of an index page name.**  Each page lists the items one by one, the index of topics
those of some topic.  The links to items are those of the listed ones, seen from the page, each followed by the
links of its synopsis, seen from its own file.  A link names the file of its item unless it is seen from there. -/
theorem index_link_names_file (settings : Settings) (inputs : List Manual.Input) (dialect : Dialect)
    (listing : Listing) :
    let m := (Manual.new settings).readAll inputs
    let s : Setting := ⟨m.library, dialect⟩
    let lines := s.pagePieces m.filesByPriority listing
    s.written lines = (Documentation.indexLines m s listing.page).value ∧
      linksOf lines =
        (s.listed m.filesByPriority listing).flatMap (s.entryLinks (dialect.pageFile listing.page)) ∧
      (∀ id, id ∈ s.listed m.filesByPriority listing ↔ ∃ n info, m.document.node? id = some n ∧
        n.item? = some info ∧ (listing = .topics → info.topics ≠ [])) ∧
      ∀ l ∈ linksOf lines, ∃ n, m.document.node? l.target = some n ∧ n.isItem = true ∧
        s.spellLink l = dialect.link n.subtitle n.linkAnchor
          (if l.seenFrom = n.origin.file then "" else n.origin.file) true := by
  intro m s lines
  have hforest : s.doc.Forest := Manual.forest_readAll settings inputs
  have hrefs : ∀ name item, s.library.references.get? name = some item → item ∈ s.doc.items := by
    intro name item hget
    obtain ⟨n, info, hn, hinfo, -⟩ := ((Manual.named_readAll settings inputs).get?_eq_some_iff _ _).1 hget
    exact mem_items.2 ⟨n, info, hn, hinfo⟩
  have hlinks := s.linksOf_pagePieces m.filesByPriority listing
  refine ⟨s.written_pagePieces m listing, hlinks, ?_, ?_⟩
  · intro id
    exact mem_listed hforest (files_subset_filesByPriority m) listing
  · intro l hl
    rw [hlinks] at hl
    obtain ⟨id, hid, hl⟩ := List.mem_flatMap.1 hl
    obtain ⟨n, info, hn, hinfo, -⟩ := (mem_listed hforest (files_subset_filesByPriority m) listing).1 hid
    obtain ⟨t, tinfo, ht, htinfo⟩ := mem_items.1 (target_mem_items hrefs (mem_items.2 ⟨n, info, hn, hinfo⟩) hl)
    exact ⟨t, ht, Option.isSome_iff_exists.2 ⟨tinfo, htinfo⟩, spellLink_of_node? ht⟩

/-- A synopsis that links to an item of another file: the link names that file. -/
theorem index_link_names_file_across :
    let m := (Manual.new Settings.default).readAll
      [.code "a.scad" ["// File: a.scad", "// Function: f()", "// Synopsis: Like \x7b\x7bh()\x7d\x7d."],
        .code "b.scad" ["// File: b.scad", "// Function: h()"]]
    let s : Setting := ⟨m.library, .wiki⟩
    linksOf (s.pagePieces m.filesByPriority .contents) = [⟨2, "TOC.md"⟩, ⟨6, "a.scad"⟩, ⟨6, "TOC.md"⟩] ∧
      s.spellLink ⟨6, "a.scad"⟩ = "[`h()`](b.scad#function-h)" := by
  intro m s
  have hlinks : linksOf (s.pagePieces m.filesByPriority .contents) =
      [⟨2, "TOC.md"⟩, ⟨6, "a.scad"⟩, ⟨6, "TOC.md"⟩] := by decide +kernel
  have hnode : m.document.node? 6 = some ⟨.item .empty, "Function", "h()", [], ⟨"b.scad", 2⟩, 0, some 5⟩ := by
    decide +kernel
  obtain ⟨-, -, -, hnames⟩ := index_link_names_file Settings.default
    [.code "a.scad" ["// File: a.scad", "// Function: f()", "// Synopsis: Like \x7b\x7bh()\x7d\x7d."],
      .code "b.scad" ["// File: b.scad", "// Function: h()"]] .wiki .contents
  obtain ⟨n, hn, -, hspelled⟩ := hnames ⟨6, "a.scad"⟩ (hlinks ▸ by decide)
  obtain rfl := Option.some.inj (hnode.symm.trans hn)
  exact ⟨hlinks, hspelled.trans (by decide +kernel)⟩

/-- A synopsis that links to an item of its own file: in the table of contents the link leads to an anchor of the
table itself, beside a link to the same item that names the file. -/
theorem index_link_of_synopsis_bare :
    let m := (Manual.new Settings.default).readAll
      [.code "a.scad" ["// File: a.scad", "// Function: f()", "// Synopsis: Like \x7b\x7bg()\x7d\x7d.", "",
        "// Function: g()"]]
    let s : Setting := ⟨m.library, .wiki⟩
    (Documentation.indexLines m s .contents).value =
      ["# Table of Contents", "", "## List of Files", "", "**Miscellaneous:** ", "",
        "- [a.scad](#1-ascad) ([docs](a.scad))", "", "", "## 1. [a.scad](a.scad)", "",
        "    - [`f()`](a.scad#function-f) Func – Like [`g()`](#function-g).",
        "    - [`g()`](a.scad#function-g) Func", "    ", ""] := by
  decide +kernel

end Setting

end Page

end ScadManual
