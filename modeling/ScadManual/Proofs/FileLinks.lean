import ScadManual.Proofs.Anchors
import ScadManual.Proofs.Beneath

/-!
# Links to the pages of files

The page of a file is written under the name of its source, and links to the file and to its items name it so.  The
list of files in the table of contents, and the sidebar, name a page after the subtitle of its file instead, which may
be any text.  Each of the two has the links that lead to the pages written exactly when every file it lists has its
source for a subtitle.
-/

namespace ScadManual

/-- Parts of the same lengths that make up the same list are the same. -/
theorem flatMap_eq_flatMap_iff {α β : Type} {f g : α → List β} (hlength : ∀ x, (f x).length = (g x).length)
    (xs : List α) : xs.flatMap f = xs.flatMap g ↔ ∀ x ∈ xs, f x = g x := by
  induction xs with
  | nil => simp
  | cons x xs ih =>
    rw [List.flatMap_cons, List.flatMap_cons, List.forall_mem_cons, ← ih]
    constructor
    · exact fun h => List.append_inj h (hlength x)
    · rintro ⟨hfirst, hrest⟩
      rw [hfirst, hrest]

namespace Dialect

/-- The file of the page that a link with the target leads to. -/
def targetPage (d : Dialect) (target : String) : String :=
  match d with
  | .mkdocs => target
  | _ => target ++ suffix

/-- In every dialect, a link that names a file leads to the page with the name of the file. -/
theorem targetPage_linkFile (d : Dialect) {file : String} (h : file.isEmpty = false) :
    d.targetPage (d.linkFile file) = file ++ suffix := by
  cases d with
  | mkdocs => simp [targetPage, linkFile, h]
  | wiki | githubWiki => rfl

theorem linkFile_inj {d : Dialect} {a b : String} (h : d.linkFile a = d.linkFile b) : a = b := by
  cases d with
  | wiki | githubWiki => exact h
  | mkdocs =>
    have hnot (file : String) : file ++ suffix ≠ "" := by simp [suffix]
    simp only [linkFile] at h
    split at h <;> split at h
    · next ha hb => rw [String.isEmpty_iff.1 ha, String.isEmpty_iff.1 hb]
    · exact absurd h.symm (hnot b)
    · exact absurd h (hnot a)
    · exact (String.append_left_inj suffix).1 h

theorem link_inj {d : Dialect} {label anchor a b : String} {literal : Bool}
    (h : d.link label anchor a literal = d.link label anchor b literal) : a = b := by
  have htarget := (String.append_left_inj _).1 ((String.append_left_inj ")").1 h)
  exact linkFile_inj ((String.append_right_inj _).1 htarget)

end Dialect

namespace Page.Setting

variable {s : Setting} {files : List NodeId}

/-! ## Lists of files -/

/-- A list of files on an index page: group by group, with the lines of each file. -/
def listing (s : Setting) (files : List NodeId) (lines : Nat × Node × FileInfo → List String) : List String :=
  (s.groups files).flatMap fun group =>
    Dialect.blockHeader (groupTitle group) "" true ++ (s.groupMembers files group).flatMap lines ++ [""]

theorem mem_groups {group : String} : group ∈ s.groups files ↔ ∃ file ∈ files, s.groupOf file = group := by
  have hnamed : (!group.isEmpty) = true ∨ group.isEmpty = true := by cases group.isEmpty <;> simp
  rw [groups, List.mem_eraseDups, List.mem_append, List.mem_filter, List.mem_filter, ← and_or_left,
    and_iff_left hnamed, List.mem_map]

theorem mem_groupMembers {group : String} {x : Nat × Node × FileInfo} :
    x ∈ s.groupMembers files group ↔ ∃ file, (file, x.1) ∈ files.zipIdx 1 ∧
      s.doc.node? file = some x.2.1 ∧ x.2.1.file? = some x.2.2 ∧ x.2.2.group = group := by
  rw [groupMembers, List.mem_filterMap]
  constructor
  · rintro ⟨⟨file, number⟩, hmem, hx⟩
    obtain ⟨n, hn, hx⟩ := Option.bind_eq_some_iff.1 hx
    obtain ⟨info, hinfo, hx⟩ := Option.bind_eq_some_iff.1 hx
    split at hx
    · next hgroup =>
      obtain rfl := Option.some.inj hx
      exact ⟨file, hmem, hn, hinfo, hgroup⟩
    · exact nomatch hx
  · rintro ⟨file, hmem, hn, hinfo, hgroup⟩
    exact ⟨(file, x.1), hmem, by simp [hn, hinfo, hgroup]⟩

/-- The members of the groups are the files. -/
theorem forall_members_iff {P : Node → Prop}
    (hfiles : ∀ file ∈ files, ∃ n, s.doc.node? file = some n ∧ n.isFile = true) :
    (∀ group ∈ s.groups files, ∀ x ∈ s.groupMembers files group, P x.2.1) ↔
      ∀ file ∈ files, ∀ n, s.doc.node? file = some n → P n := by
  constructor
  · intro h file hfile n hn
    obtain ⟨n', hn', hisFile⟩ := hfiles file hfile
    obtain rfl := Option.some.inj (hn'.symm.trans hn)
    obtain ⟨info, hinfo⟩ := Option.isSome_iff_exists.1 hisFile
    have hgroup : info.group ∈ s.groups files := by
      refine mem_groups.2 ⟨file, hfile, ?_⟩
      simp [groupOf, hn, hinfo]
    have hnumbered : file ∈ (files.zipIdx 1).map Prod.fst := by
      rw [List.zipIdx_map_fst]
      exact hfile
    obtain ⟨⟨_, number⟩, hmem, rfl⟩ := List.mem_map.1 hnumbered
    exact h info.group hgroup (number, n', info) (mem_groupMembers.2 ⟨_, hmem, hn, hinfo, rfl⟩)
  · intro h group _ x hx
    obtain ⟨file, hmem, hn, -, -⟩ := mem_groupMembers.1 hx
    exact h file (List.fst_mem_of_mem_zipIdx hmem) x.2.1 hn

/-- A list of files tells what its lines tell of each file, when the number of the lines is known. -/
theorem listing_eq_iff (hfiles : ∀ file ∈ files, ∃ n, s.doc.node? file = some n ∧ n.isFile = true)
    {lines lines' : Nat × Node × FileInfo → List String} {P : Node → Prop}
    (hlength : ∀ x, (lines x).length = (lines' x).length) (hlines : ∀ x, lines x = lines' x ↔ P x.2.1) :
    s.listing files lines = s.listing files lines' ↔ ∀ file ∈ files, ∀ n, s.doc.node? file = some n → P n := by
  have hgroup (group : String) :
      (Dialect.blockHeader (groupTitle group) "" true ++ (s.groupMembers files group).flatMap lines ++ [""] =
        Dialect.blockHeader (groupTitle group) "" true ++ (s.groupMembers files group).flatMap lines' ++ [""]) ↔
      ∀ x ∈ s.groupMembers files group, P x.2.1 := by
    rw [List.append_left_inj, List.append_right_inj, flatMap_eq_flatMap_iff hlength]
    simp only [hlines]
  rw [listing, listing, flatMap_eq_flatMap_iff, ← forall_members_iff hfiles]
  · simp only [hgroup]
  · intro group
    simp only [List.length_append, List.length_flatMap, hlength]

/-! ## The two pages with links to files -/

/-- The lines of a file in the table of contents, the link to its page naming the file `name` gives. -/
def docsLines (s : Setting) (name : Node → String) (x : Nat × Node × FileInfo) : List String :=
  let (number, n, info) := x
  [Dialect.bullet
      (s.dialect.link n.subtitle (Markup.anchor (toString number ++ ". " ++ n.subtitle)) "" false ++ " (" ++
        s.dialect.link "docs" "" (name n) false ++ ")" ++
        Dialect.mouseoverTags (footnoteTags info) (some contentsFootnotes) "sup" "\x7b\x7d"),
    info.summary]

/-- The line of a file in the sidebar, which links to the file `name` gives. -/
def sidebarLines (s : Setting) (name : Node → String) (x : Nat × Node × FileInfo) : List String :=
  let (_, n, info) := x
  [Dialect.bullet (s.dialect.link n.subtitle "" (name n) false ++
    Dialect.mouseoverTags (footnoteTags info) (some sidebarFootnotes) "sup" "\x7b\x7d")]

/-- The table of contents with links to the files that `name` gives. -/
def contentsNaming (s : Setting) (name : Node → String) (files : List NodeId) : List String :=
  let notes := (s.allFootnotes files).value
  Dialect.header "Table of Contents" fileLevel true ++ Dialect.header "List of Files" sectionLevel true ++
    s.listing files (s.docsLines name) ++
    ((if notes.isEmpty then []
      else [""] ++ Dialect.header "File Footnotes:" subsectionLevel true ++ footnoteLines notes ++ [""]) ++
      (files.zipIdx 1).flatMap fun (file, number) => s.fileLines (s.dialect.pageFile .contents) file number)

/-- The sidebar with links to the files that `name` gives. -/
def sidebarNaming (s : Setting) (name : Node → String) (files : List NodeId) : List String :=
  let notes := (s.allFootnotes files).value
  (sidebarPages.map fun (label, page) =>
      Dialect.lineBreak (s.dialect.link label "" (s.dialect.pageLink page) false)) ++
    [""] ++ Dialect.header "List of Files:" subsectionLevel true ++ s.listing files (s.sidebarLines name) ++
    if notes.isEmpty then []
    else [""] ++ Dialect.header "Footnotes:" subsectionLevel true ++ footnoteLines notes

/-- The table of contents names files by their subtitles. -/
theorem value_contentsPage (files : List NodeId) :
    (s.contentsPage files).value = s.contentsNaming Node.subtitle files := by
  rw [contentsNaming, ← List.append_assoc]
  rfl

/-- And so does the sidebar. -/
theorem value_sidebarPage (files : List NodeId) :
    (s.sidebarPage files).value = s.sidebarNaming Node.subtitle files := by
  have hgroup (group : String) :
      Dialect.blockHeader (groupTitle group) "" true ++ Dialect.bulletList ((s.groupMembers files group).map
        fun (_, n, info) => s.dialect.link n.subtitle "" n.subtitle false ++
          Dialect.mouseoverTags (footnoteTags info) (some sidebarFootnotes) "sup" "\x7b\x7d") =
      Dialect.blockHeader (groupTitle group) "" true ++
        (s.groupMembers files group).flatMap (s.sidebarLines Node.subtitle) ++ [""] := by
    rw [Dialect.bulletList, List.map_map, List.map_eq_flatMap, Dialect.paragraph, ← List.append_assoc]
    rfl
  rw [sidebarPage, Noted.map, sidebarNaming, listing]
  simp only [hgroup]

/-- The lines of a file tell which file they name. -/
theorem docsLines_eq_iff {name name' : Node → String} (x : Nat × Node × FileInfo) :
    s.docsLines name x = s.docsLines name' x ↔ name x.2.1 = name' x.2.1 := by
  refine ⟨fun h => ?_, fun h => by simp only [docsLines, h]⟩
  have hline := (String.append_right_inj "- ").1 (List.cons.inj h).1
  have hdocs := (String.append_left_inj ")").1 ((String.append_left_inj _).1 hline)
  exact Dialect.link_inj ((String.append_right_inj _).1 hdocs)

theorem sidebarLines_eq_iff {name name' : Node → String} (x : Nat × Node × FileInfo) :
    s.sidebarLines name x = s.sidebarLines name' x ↔ name x.2.1 = name' x.2.1 := by
  refine ⟨fun h => ?_, fun h => by simp only [sidebarLines, h]⟩
  have hline := (String.append_right_inj "- ").1 (List.cons.inj h).1
  exact Dialect.link_inj ((String.append_left_inj _).1 hline)

section Naming

variable {name name' : Node → String} (hfiles : ∀ file ∈ files, ∃ n, s.doc.node? file = some n ∧ n.isFile = true)

include hfiles

/-- Two tables of contents are the same exactly when they name the same files. -/
theorem contentsNaming_eq_iff : s.contentsNaming name files = s.contentsNaming name' files ↔
    ∀ file ∈ files, ∀ n, s.doc.node? file = some n → name n = name' n := by
  rw [contentsNaming, contentsNaming, List.append_left_inj, List.append_right_inj]
  exact listing_eq_iff hfiles (fun _ => by simp only [docsLines, List.length_cons]) docsLines_eq_iff

theorem sidebarNaming_eq_iff : s.sidebarNaming name files = s.sidebarNaming name' files ↔
    ∀ file ∈ files, ∀ n, s.doc.node? file = some n → name n = name' n := by
  rw [sidebarNaming, sidebarNaming, List.append_left_inj, List.append_right_inj]
  exact listing_eq_iff hfiles (fun _ => by simp only [sidebarLines, List.length_cons]) sidebarLines_eq_iff

end Naming

/-! ## Links and pages -/

theorem sourceOf_eq {d : Document} {file : NodeId} {n : Node} (hn : d.node? file = some n) :
    Documentation.sourceOf d file = n.origin.file := by
  rw [Documentation.sourceOf, References.originOf, hn]
  rfl

/-- Every node comes from the source of its file. -/
theorem sourceOf_fileOf {d : Document} (hd : d.Forest) {id : NodeId} {n : Node} (hn : d.node? id = some n) :
    Documentation.sourceOf d (d.fileOf id) = n.origin.file := by
  rw [← sourceOf_eq hn]
  exact ((hd.fileOf_spec id (Document.lt_size_of_node? hn)).2.2).symm

theorem fileLink_of_node? {file : NodeId} {n : Node} (hn : s.doc.node? file = some n) (current : Option String)
    (label : String) : s.fileLink file current label = s.dialect.link label "" (linkFile n.origin current) false := by
  rw [fileLink, hn]

/-- **Which pages the lists of files name.**  A run writes the page of every file under the name of its source, and
links to items and files name that page, unless they stand on it.  The table of contents and the sidebar name the page
of a file after its subtitle; the links in them are those to the pages written exactly when every file listed has
its source for a subtitle. -/
theorem lists_name_written_pages_iff {σ : Type} (settings : Settings) (inputs : List Manual.Input)
    (dialect : Dialect) (files : List NodeId) (r r' : Run σ) (summary : Summary) :
    let m := (Manual.new settings).readAll inputs
    let s : Setting := ⟨m.library, dialect⟩
    let source := Documentation.sourceOf m.document
    let named (file current : String) := if current = file then "" else file
    files ⊆ m.document.files →
    (m.settings.testOnly = false → r.exec (Documentation.writeFilePages m) = (.ok summary, r') →
        summary.pages.Perm
          (m.document.files.map fun file => Path.join m.settings.docsDir (source file ++ Dialect.suffix))) ∧
      (∀ file : String, file.isEmpty = false →
        dialect.targetPage (dialect.linkFile file) = file ++ Dialect.suffix) ∧
      (∀ id n, m.document.node? id = some n → n.isItem = true → ∀ current label literal,
        s.itemLink id (some current) label literal = dialect.link (label.getD n.subtitle) n.linkAnchor
          (named (source (m.document.fileOf id)) current) literal) ∧
      (∀ file ∈ m.document.files, ∀ current label, s.fileLink file (some current) label =
        dialect.link label "" (named (source file) current) false) ∧
      (s.contentsPage files).value = s.contentsNaming Node.subtitle files ∧
      (s.sidebarPage files).value = s.sidebarNaming Node.subtitle files ∧
      ((s.contentsPage files).value = s.contentsNaming (·.origin.file) files ↔
        ∀ file ∈ files, m.document.subtitle file = source file) ∧
      ((s.sidebarPage files).value = s.sidebarNaming (·.origin.file) files ↔
        ∀ file ∈ files, m.document.subtitle file = source file) := by
  intro m s source named hsubset
  have hforest : m.document.Forest := Manual.forest_readAll settings inputs
  have hfiles := hforest.wellFormed.isFile_of_mem_files
  have hlisted : ∀ file ∈ files, ∃ n, s.doc.node? file = some n ∧ n.isFile = true :=
    fun file hfile => hfiles file (hsubset hfile)
  have hsubtitles : (∀ file ∈ files, ∀ n, s.doc.node? file = some n → n.subtitle = n.origin.file) ↔
      ∀ file ∈ files, m.document.subtitle file = source file := by
    refine forall₂_congr fun file hfile => ?_
    obtain ⟨n, hn, -⟩ := hlisted file hfile
    have hsubtitle : m.document.subtitle file = n.subtitle :=
      (Document.title_of_caption? (Document.caption?_of_node? hn)).2
    rw [show source file = n.origin.file from sourceOf_eq hn, hsubtitle]
    constructor
    · exact fun h => h n hn
    · intro h n' hn'
      rw [← Option.some.inj (hn.symm.trans hn')]
      exact h
  refine ⟨fun htest hrun => ?_, fun file => dialect.targetPage_linkFile, ?_, ?_, value_contentsPage files,
    value_sidebarPage files, ?_, ?_⟩
  · obtain ⟨dialect, -, -, -, hwritten⟩ := Documentation.writeFilePages_eq_ok htest hrun
    rw [Documentation.pages_writeFiles _ hwritten]
    exact (Documentation.filesByName_perm m.document).map _
  · intro id n hn _ current label literal
    rw [show source (m.document.fileOf id) = n.origin.file from sourceOf_fileOf hforest hn]
    exact itemLink_of_node? (s := s) hn (some current) label literal
  · intro file hfile current label
    obtain ⟨n, hn, -⟩ := hfiles file hfile
    rw [show source file = n.origin.file from sourceOf_eq hn]
    exact fileLink_of_node? (s := s) hn (some current) label
  · rw [value_contentsPage, ← hsubtitles]
    exact contentsNaming_eq_iff hlisted
  · rw [value_sidebarPage, ← hsubtitles]
    exact sidebarNaming_eq_iff hlisted

/-- A file that repeats the path of its source: all links lead to the page that is written. -/
theorem lists_name_written_pages_iff_repeated :
    let m := (Manual.new Settings.default).readAll [.code "lib/a.scad" ["// File: lib/a.scad", "// Function: f()"]]
    let s : Setting := ⟨m.library, .mkdocs⟩
    let r : Run Unit := Run.start ⟨[], []⟩ none
    [0] ⊆ m.document.files ∧ m.settings.testOnly = false ∧
      ∃ summary r', r.exec (Documentation.writeFilePages m) = (.ok summary, r') ∧
        summary.pages = ["docs/lib/a.scad.md"] ∧
        summary.pages.Perm (m.document.files.map fun file =>
          Path.join m.settings.docsDir (Documentation.sourceOf m.document file ++ Dialect.suffix)) ∧
        (s.contentsPage [0]).value = s.contentsNaming (·.origin.file) [0] ∧
        (s.sidebarPage [0]).value = s.sidebarNaming (·.origin.file) [0] ∧
        s.itemLink 2 (some "index.md") none true = "[`f()`](lib/a.scad.md#function-f)" := by
  intro m s r
  obtain ⟨⟨hfiles, htest, hsubtitle, hsource⟩, hitem, hpages⟩ :
      (m.document.files = [0] ∧ m.settings.testOnly = false ∧ m.document.subtitle 0 = "lib/a.scad" ∧
        Documentation.sourceOf m.document 0 = "lib/a.scad") ∧
      (m.document.node? 2 = some ⟨.item .empty, "Function", "f()", [], ⟨"lib/a.scad", 2⟩, 0, some 1⟩ ∧
        m.document.fileOf 2 = 0) ∧
      (r.exec (Documentation.writeFilePages m)).1.toOption = some ⟨["docs/lib/a.scad.md"], 0, 0, 0, 0⟩ := by
    decide +kernel
  have hsubset : [0] ⊆ m.document.files := by
    rw [hfiles]
    exact List.Subset.refl _
  rcases hrun : r.exec (Documentation.writeFilePages m) with ⟨result, r'⟩
  rw [hrun] at hpages
  obtain rfl := ok_of_toOption hpages
  have hsame : ∀ file ∈ [0], m.document.subtitle file = Documentation.sourceOf m.document file := by
    intro file hfile
    rw [List.mem_singleton.1 hfile, hsubtitle, hsource]
  obtain ⟨hwritten, -, hitems, -, -, -, hcontents, hsidebar⟩ :=
    lists_name_written_pages_iff Settings.default _ .mkdocs [0] r r' _ hsubset
  refine ⟨hsubset, htest, _, r', rfl, rfl, hwritten htest hrun, hcontents.2 hsame, hsidebar.2 hsame, ?_⟩
  have hlink := hitems 2 _ hitem.1 rfl "index.md" none true
  rw [hitem.2, hsource] at hlink
  exact hlink.trans (by decide +kernel)

/-- A file with a title of its own: the table of contents and the sidebar link to a page `Shapes`, which no run
writes. -/
theorem lists_name_subtitles :
    let m := (Manual.new Settings.default).readAll [.code "a.scad" ["// File: Shapes"]]
    let s : Setting := ⟨m.library, .wiki⟩
    m.document.files = [0] ∧ Documentation.pageOf m.settings (Documentation.sourceOf m.document 0) = "docs/a.scad.md" ∧
      (s.contentsPage [0]).value =
        ["# Table of Contents", "", "## List of Files", "", "**Miscellaneous:** ", "",
          "- [Shapes](#1-shapes) ([docs](Shapes))", "", "", "## 1. [Shapes](a.scad)", "", ""] ∧
      (s.sidebarPage [0]).value =
        ["[Table of Contents](TOC)  ", "[Function Index](AlphaIndex)  ", "[Topics Index](Topics)  ",
          "[Cheat Sheet](CheatSheet)  ", "", "## List of Files:", "", "**Miscellaneous:** ", "",
          "- [Shapes](Shapes)", ""] := by
  decide +kernel

end Page.Setting

end ScadManual
