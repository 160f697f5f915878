import ScadManual.Proofs.Anchors
import ScadManual.Proofs.Links
import ScadManual.Proofs.Names

/-!
# Links in the texts of blocks

Blocks show their texts in different ways: as lines of a body, where code stays as it is, as items of a list or as
cells of tables.  The link in a text is written out wherever the text is a line or a cell, and the page reports it when
it stands for nothing.  The items of a list are shown as they stand.
-/

namespace ScadManual

/-! ## Code and prose -/

namespace Page

/-- Does the line open or close a block of code? -/
def isFence (line : String) : Bool := Text.startsWith line "```"

/-- Is a block of code open after the lines? -/
def fencedAfter (lines : List String) : Bool := lines.countP isFence % 2 == 1

/-- Lines that follow others, each with whether it is code: fenced in, or indented by four spaces. -/
def marked (before lines : List String) : List (String × Bool) :=
  lines.mapIdx fun i line =>
    (line, fencedAfter (before ++ lines.take (i + 1)) || Text.startsWith line "    ")

/-- The lines that are not code. -/
def prose (lines : List String) : List String := ((marked [] lines).filter (!·.2)).map (·.1)

/-- The lines as they are shown: code as it is, an empty line for a full stop, and any other line as `write` has
it. -/
def shownLines (write : String → String) (lines : List String) : List String :=
  (marked [] lines).map fun (line, code) => if code then line else if line = "." then "" else write line

theorem fencedAfter_concat (lines : List String) (line : String) :
    fencedAfter (lines ++ [line]) = if isFence line then !fencedAfter lines else fencedAfter lines := by
  unfold fencedAfter
  rw [List.countP_append, List.countP_singleton]
  split
  · rcases Nat.mod_two_eq_zero_or_one (lines.countP isFence) with h | h <;> simp [Nat.add_mod, h]
  · rfl

theorem marked_cons (before : List String) (line : String) (rest : List String) :
    marked before (line :: rest) =
      (line, fencedAfter (before ++ [line]) || Text.startsWith line "    ") :: marked (before ++ [line]) rest := by
  simp [marked, List.mapIdx_cons]

namespace Setting

variable {s : Setting} {origin : Origin}

theorem links_full_stop : (s.links origin ".").findings = [] := by
  have hnone : ¬Link.HasLink ".".toList := by
    rintro ⟨name, -, hinfix⟩
    have hlength := hinfix.length_le
    simp [Link.token] at hlength
  rw [links, Link.expand_of_not_hasLink hnone]

/-- The state of the fences is what the lines before leave. -/
theorem bodyLines_eq (before lines : List String) :
    s.bodyLines origin (fencedAfter before) lines =
      ⟨(marked before lines).map fun (line, code) =>
          if code then line else if line = "." then "" else (s.links origin line).value,
        ((marked before lines).filter (!·.2)).flatMap fun l => (s.links origin l.1).findings⟩ := by
  induction lines generalizing before with
  | nil => rfl
  | cons line rest ih =>
    have hfence : (if Text.startsWith line "```" then !fencedAfter before else fencedAfter before) =
        fencedAfter (before ++ [line]) := (fencedAfter_concat before line).symm
    rw [marked_cons, bodyLines, hfence, ih (before ++ [line])]
    cases hcode : fencedAfter (before ++ [line]) || Text.startsWith line "    " with
    | true => simp [Noted.of]
    | false =>
      by_cases hstop : line = "."
      · subst hstop
        simp [Noted.of, links_full_stop]
      · simp [hstop]

theorem body_eq (n : Node) :
    s.body n = ⟨shownLines (fun t => (s.links n.origin t).value) n.body,
      (prose n.body).flatMap fun t => (s.links n.origin t).findings⟩ := by
  rw [body, show false = fencedAfter [] from rfl, bodyLines_eq]
  simp [shownLines, prose, List.flatMap_map]

end Setting

end Page

/-! ## Tables -/

/-- Every table has rows, and a header set to stand under. -/
structure TableInfo.Headed (info : TableInfo) : Prop where
  length_le : info.tables.length ≤ info.headerSets.length
  rows : ∀ rows ∈ info.tables, rows ≠ []

theorem Table.headed_of_parse? {headerSets : List (List String)} {body : List String} {info : TableInfo}
    (h : parse? headerSets body = some info) : info.Headed := by
  unfold parse? at h
  extract_lets parts at h
  split at h
  · exact nomatch h
  · obtain rfl := Option.some.inj h
    refine ⟨?_, ?_⟩
    · refine Nat.le_trans (List.length_filter_le _ _) ?_
      rw [List.length_map, List.length_zip]
      exact Nat.min_le_left _ _
    · intro rows hrows
      simpa using (List.mem_filter.1 hrows).2

/-- The tables of a block are read from its body. -/
theorem Manual.parsed_readAll (settings : Settings) (inputs : List Input) :
    ∀ id n, ((new settings).readAll inputs).document.node? id = some n →
      ∀ info, n.kind = .table info → ∃ headerSets, Table.parse? headerSets n.body = some info := by
  refine nodes_readAll ?_ (fun _ h => h) ?_ settings inputs
  · intro n hholder info hk
    rw [hk] at hholder
    exact nomatch hholder
  · intro m parent n _ htable
    exact htable

theorem Manual.headed_readAll (settings : Settings) (inputs : List Input) :
    ∀ id n, ((new settings).readAll inputs).document.node? id = some n →
      ∀ info, n.kind = .table info → info.Headed := by
  intro id n hn info hk
  obtain ⟨headerSets, hparse⟩ := parsed_readAll settings inputs id n hn info hk
  exact Table.headed_of_parse? hparse

namespace Page.Setting

variable {s : Setting} {origin : Origin}

theorem tables_eq {info : TableInfo} (h : info.Headed) :
    s.tables origin info =
      ⟨(info.headerSets.zip info.tables).flatMap fun (headers, rows) =>
          Dialect.table headers (rows.map fun row => row.map fun t => (s.links origin t).value),
        info.tables.flatten.flatten.flatMap fun t => (s.links origin t).findings⟩ := by
  have hrows : s.tables origin info = Noted.concat ((info.headerSets.zip info.tables).map fun (headers, rows) =>
      (Noted.all (rows.map fun row => Noted.all (row.map (s.links origin)))).map (Dialect.table headers)) := by
    rw [tables]
    congr 1
    refine List.map_congr_left fun t ht => ?_
    have hne : t.2.isEmpty = false := by
      simpa using h.rows t.2 (List.of_mem_zip ht).2
    simp only [hne, Bool.false_eq_true, if_false]
  have hall : (info.headerSets.zip info.tables).map Prod.snd = info.tables := List.map_snd_zip h.length_le
  rw [hrows]
  refine congrArg₂ Noted.mk ?_ ?_
  · simp [List.flatMap_map, Noted.all, Noted.map, Function.comp_def]
  · simp only [← List.flatMap_id, List.flatMap_assoc]
    conv => rhs; rw [← hall]
    simp [List.flatMap_map, Noted.all, Noted.map]

end Page.Setting

/-! ## Blocks -/

/-- Is the kind one of blocks that show texts? -/
def Kind.hasTexts : Kind → Bool
  | .generic | .label | .text | .headerless | .bulletList | .numberedList | .table _ => true
  | _ => false

/-- Is the kind one of lists? -/
def Kind.isList : Kind → Bool
  | .bulletList | .numberedList => true
  | _ => false

namespace Node

/-- The texts of a block in which links may stand: the lines of its body without code, the items of a list, the cells
of its tables. -/
def texts (n : Node) : List String :=
  match n.kind with
  | .bulletList | .numberedList => n.body
  | .table info => info.tables.flatten.flatten
  | _ => Page.prose n.body

/-- The lines of a block below the one with its title, when `write` writes its texts. -/
def block (write : String → String) (n : Node) : List String :=
  match n.kind with
  | .bulletList => Dialect.bulletList (n.body.map write)
  | .numberedList => Dialect.numberedList (n.body.map write)
  | .table info =>
    (info.headerSets.zip info.tables).flatMap fun (headers, rows) =>
      Dialect.table headers (rows.map fun row => row.map write)
  | .headerless => "" :: Page.shownLines write n.body ++ [""]
  | _ => Page.shownLines write n.body ++ [""]

end Node

namespace Link.Cut

/-- The text with its links as `write` has them. -/
def written (write : String → String) (c : Cut) : String :=
  String.ofList c.head ++ String.join (c.links.map fun l => write (String.ofList l.1) ++ String.ofList l.2)

end Link.Cut

namespace Page.Setting

variable {s : Setting} {id : NodeId} {n : Node}

/-- What a link becomes on the page of a file: the link to the item with the name, or else the plain name. -/
def linked (s : Setting) (file name : String) : String :=
  match s.library.references.get? name with
  | some item => s.itemLink item (some file) none true
  | none => name

/-- The line with the title of a block; a block without a header has none. -/
def titleLines (s : Setting) (n : Node) : Noted (List String) :=
  if n.kind = .headerless then Noted.of [] else s.blockStart n

/-- How a block writes its texts. -/
def writeText (s : Setting) (n : Node) (text : String) : Noted String :=
  if n.kind.isList then Noted.of text else s.links n.origin text

theorem writeText_of_divides {text : String} {c : Link.Cut} (hc : c.Divides text.toList) :
    s.writeText n text =
      if n.kind.isList then ⟨text, []⟩
      else ⟨c.written (s.linked n.origin.file),
        (c.names.filter fun name => (s.library.references.get? name).isNone).map fun name =>
          ⟨n.origin, .reference (Link.spelled name)⟩⟩ := by
  rw [Link.divides_iff.1 hc]
  rfl

/-- **The lines of a block and what is found in it**, from how its texts are written. -/
theorem leafLines_eq (hkind : n.kind.hasTexts = true) (htable : ∀ info, n.kind = .table info → info.Headed) :
    s.leafLines id n =
      ⟨(s.titleLines n).value ++ n.block fun t => (s.writeText n t).value,
        (s.titleLines n).findings ++ n.texts.flatMap fun t => (s.writeText n t).findings⟩ := by
  match hk : n.kind with
  | .generic | .label | .text =>
    simp only [leafLines, titleLines, writeText, Node.block, Node.texts, hk]
    show Noted.mk ((s.blockStart n).value ++ (s.body n).value ++ [""])
      ((s.blockStart n).findings ++ ((s.body n).findings ++ [])) = _
    rw [body_eq]
    simp [Kind.isList]
  | .headerless =>
    simp only [leafLines, titleLines, writeText, Node.block, Node.texts, hk]
    rw [body_eq]
    simp [Kind.isList, Noted.map, Noted.of]
  | .bulletList | .numberedList =>
    simp only [leafLines, titleLines, writeText, Node.block, Node.texts, hk]
    simp [Kind.isList, Noted.map, Noted.of]
  | .table info =>
    simp only [leafLines, titleLines, writeText, Node.block, Node.texts, hk]
    show Noted.mk ((s.blockStart n).value ++ (s.tables n.origin info).value)
      ((s.blockStart n).findings ++ ((s.tables n.origin info).findings ++ [])) = _
    rw [tables_eq (htable info hk)]
    simp [Kind.isList]
  | .file _ | .section | .subsection | .item _ | .image _ | .includes | .synopsis | .tags | .topics | .seeAlso =>
    rw [hk] at hkind
    exact nomatch hkind

/-- **The links in a block are written out and accounted for, unless the block is a list.**  A block stands on the page
of its file, with its texts written one by one.  Writing a text puts the link of its item, or else the plain name,
for every link in it, and finds the names that stand for nothing.  A list writes its texts as they stand, and finds
nothing in them. -/
theorem block_links_written (settings : Settings) (inputs : List Manual.Input) (dialect : Dialect) (id : NodeId)
    (n : Node) :
    let m := (Manual.new settings).readAll inputs
    let s : Setting := ⟨m.library, dialect⟩
    m.document.node? id = some n → n.kind.hasTexts = true →
    (s.nodeLines id).Within (s.filePage (m.document.fileOf id)) ∧
      (s.nodeLines id).value = (s.titleLines n).value ++ n.block (fun t => (s.writeText n t).value) ∧
      (s.nodeLines id).findings =
        (s.titleLines n).findings ++ n.texts.flatMap (fun t => (s.writeText n t).findings) ∧
      (∀ (text : String) (c : Link.Cut), c.Divides text.toList → s.writeText n text =
        if n.kind.isList then ⟨text, []⟩
        else ⟨c.written (s.linked n.origin.file),
          (c.names.filter fun name => (m.references.get? name).isNone).map fun name =>
            ⟨n.origin, .reference (Link.spelled name)⟩⟩) ∧
      ∀ name, (m.references.get? name = none → s.linked n.origin.file name = name) ∧
        ∀ item, m.references.get? name = some item → ∃ x, m.document.node? item = some x ∧ x.isItem = true ∧
          s.linked n.origin.file name =
            dialect.link x.subtitle x.linkAnchor (linkFile x.origin (some n.origin.file)) true := by
  intro m s hn hkind
  have hleaf : n.kind.isLeaf = true := by
    unfold Kind.hasTexts at hkind
    unfold Kind.isLeaf
    split at hkind <;> simp_all
  have hlines : s.nodeLines id = s.leafLines id n := nodeLines_of_isLeaf (s := s) hn hleaf
  rw [leafLines_eq hkind (Manual.headed_readAll settings inputs id n hn)] at hlines
  refine ⟨within_filePage (s := s) (Manual.forest_readAll settings inputs) id, congrArg Noted.value hlines,
    congrArg Noted.findings hlines, fun text c hc => writeText_of_divides hc, fun name => ⟨?_, ?_⟩⟩
  · intro hnone
    show s.linked n.origin.file name = name
    unfold linked
    rw [show s.library.references.get? name = none from hnone]
  · intro item hitem
    obtain ⟨x, info, hx, hinfo, -⟩ := ((Manual.named_readAll settings inputs).get?_eq_some_iff name item).1 hitem
    refine ⟨x, hx, by rw [Node.isItem, hinfo]; rfl, ?_⟩
    show s.linked n.origin.file name = _
    unfold linked
    rw [show s.library.references.get? name = some item from hitem]
    exact itemLink_of_node? (s := s) hx _ _ _

/-- A description with a link, a name that stands for nothing, and code. -/
theorem block_links_written_description :
    let m := (Manual.new Settings.default).readAll
      [.code "a.scad" ["// File: a.scad", "// Function: f()", "// Description:",
        "//   See \x7b\x7bf()\x7d\x7d, \x7b\x7bg()\x7d\x7d.", "//   ```", "//   \x7b\x7bf()\x7d\x7d", "//   ```"]]
    let s : Setting := ⟨m.library, .wiki⟩
    ∃ n, m.document.node? 3 = some n ∧ n.kind.hasTexts = true ∧ (s.nodeLines 3).Within (s.filePage 0) ∧
      (s.nodeLines 3).value = ["**Description:** ", "", "See [`f()`](#function-f), g().", "```",
        "\x7b\x7bf()\x7d\x7d", "```", ""] ∧
      (s.nodeLines 3).findings = [⟨⟨"a.scad", 3⟩, .reference "\x7b\x7bg()\x7d\x7d"⟩] := by
  intro m s
  obtain ⟨n, ⟨hn, hkind, hfile⟩, hvalue, hfound⟩ : ∃ n, (m.document.node? 3 = some n ∧ n.kind.hasTexts = true ∧
      m.document.fileOf 3 = 0) ∧
      (s.titleLines n).value ++ n.block (fun t => (s.writeText n t).value) = ["**Description:** ", "",
        "See [`f()`](#function-f), g().", "```", "\x7b\x7bf()\x7d\x7d", "```", ""] ∧
      (s.titleLines n).findings ++ n.texts.flatMap (fun t => (s.writeText n t).findings) =
        [⟨⟨"a.scad", 3⟩, .reference "\x7b\x7bg()\x7d\x7d"⟩] := by
    refine ⟨⟨.text, "Description", "", ["See \x7b\x7bf()\x7d\x7d, \x7b\x7bg()\x7d\x7d.", "```",
      "\x7b\x7bf()\x7d\x7d", "```"], ⟨"a.scad", 3⟩, 0, some 2⟩, ?_⟩
    decide +kernel
  obtain ⟨hwithin, hlines, hfindings, -, -⟩ := block_links_written _ _ .wiki 3 n hn hkind
  exact ⟨n, hn, hkind, hfile ▸ hwithin, hlines.trans hvalue, hfindings.trans hfound⟩

/-- The items of a usage: both links stay on the page with their braces, and nothing is found. -/
theorem list_links_stay :
    let m := (Manual.new Settings.default).readAll
      [.code "a.scad" ["// File: a.scad", "// Function: f()", "// Usage:",
        "//   x = f(\x7b\x7bf()\x7d\x7d, \x7b\x7bg()\x7d\x7d);"]]
    let s : Setting := ⟨m.library, .wiki⟩
    m.references.get? "f()" = some 2 ∧ m.references.get? "g()" = none ∧
      (s.filePage 0).value =
        ["# File: a.scad", "", "", "## File Contents", "", "- [`f()`](#function-f)", "", "", "### Function: f()", "",
          "**Usage:** ", "", "- x = f(\x7b\x7bf()\x7d\x7d, \x7b\x7bg()\x7d\x7d);", "", "---", ""] ∧
      (s.filePage 0).findings = [] := by
  decide +kernel

end Page.Setting

end ScadManual
