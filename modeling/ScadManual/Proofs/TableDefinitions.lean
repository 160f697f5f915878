import ScadManual.Manual.Read
import ScadManual.Proofs.HeaderLines
import ScadManual.Proofs.Lookup
import ScadManual.Proofs.Path
import ScadManual.Proofs.Source

/-!
# Definitions of tables

A definition of a kind of tables lists their column headers: one bar stands between two headers of a table and two
between two tables.  The list is a value in metadata, which stands in the header line of the definition.  Four readers
take it apart again, at the parenthesis, at semicolons, at the first equals sign and at bars.  Headers that have no
character at which the outer readers cut, and no bar, come back as they were written, equals signs and spaces included.
-/

namespace ScadManual

namespace Text

/-! ## Joined texts -/

theorem splitAt_of_not_mem {sep : Char} {s : String} (h : sep ∉ s.toList) : splitAt sep s = [s] := by
  rw [splitAt, List.splitOn_eq_singleton h, List.map_singleton, String.ofList_toList]

/-- Texts with something in each of them, and no blank at their ends, have none at the ends when they are joined. -/
theorem bare_intercalate {sep : List Char} {parts : List (List Char)} (hne : parts ≠ [])
    (h : ∀ part ∈ parts, part ≠ [] ∧ Bare part) : sep.intercalate parts ≠ [] ∧ Bare (sep.intercalate parts) := by
  induction parts with
  | nil => exact absurd rfl hne
  | cons part parts ih =>
    obtain ⟨hpart, hparts⟩ := List.forall_mem_cons.1 h
    by_cases hlast : parts = []
    · subst hlast
      rw [List.intercalate_singleton]
      exact hpart
    · obtain ⟨hrest, hbare⟩ := ih hlast hparts
      rw [List.intercalate_cons_of_ne_nil hlast]
      refine ⟨by simp [hpart.1], ?_, ?_⟩
      · rw [List.append_assoc, List.head?_append_of_ne_nil _ hpart.1]
        exact hpart.2.head
      · rw [List.getLast?_append_of_ne_nil _ hrest]
        exact hbare.last

theorem mem_intercalate {sep : List Char} {parts : List (List Char)} {c : Char} (h : c ∈ sep.intercalate parts) :
    c ∈ sep ∨ ∃ part ∈ parts, c ∈ part := by
  induction parts with
  | nil => simp at h
  | cons part parts ih =>
    by_cases hlast : parts = []
    · subst hlast
      rw [List.intercalate_singleton] at h
      exact .inr ⟨part, List.mem_cons_self, h⟩
    · rw [List.intercalate_cons_of_ne_nil hlast, List.mem_append, List.mem_append] at h
      rcases h with (h | h) | h
      · exact .inr ⟨part, List.mem_cons_self, h⟩
      · exact .inl h
      · exact (ih h).imp_right fun ⟨other, hother, hc⟩ => ⟨other, List.mem_cons_of_mem part hother, hc⟩

/-! ## Cuts at two bars -/

section Bars

variable {acc rest text : List Char}

theorem splitBars_nil : splitTextChars "||".toList acc [] = [acc.reverse] := by
  rw [splitTextChars]

/-- A bar that no other follows is a character like others. -/
theorem splitBars_bar (h : rest.head? ≠ some '|') :
    splitTextChars "||".toList acc ('|' :: rest) = splitTextChars "||".toList ('|' :: acc) rest := by
  rw [splitTextChars, if_neg]
  rintro ⟨-, hstart⟩
  obtain ⟨more, hmore⟩ := List.isPrefixOf_iff_prefix.1 hstart
  obtain rfl : '|' :: more = rest := (List.cons.inj hmore).2
  exact h rfl

theorem splitBars_bars : splitTextChars "||".toList acc ("||".toList ++ rest) =
    acc.reverse :: splitTextChars "||".toList [] rest := by
  show splitTextChars "||".toList acc ('|' :: '|' :: rest) = _
  rw [splitTextChars, if_pos]
  · rfl
  · simp

theorem splitBars_append (h : '|' ∉ text) :
    splitTextChars "||".toList acc (text ++ rest) = splitTextChars "||".toList (text.reverse ++ acc) rest := by
  induction text generalizing acc with
  | nil => rfl
  | cons c text ih =>
    rw [List.mem_cons, not_or] at h
    rw [List.cons_append, splitTextChars, if_neg, ih h.2, List.reverse_cons, List.append_assoc, List.singleton_append]
    rintro ⟨-, hstart⟩
    obtain ⟨more, hmore⟩ := List.isPrefixOf_iff_prefix.1 hstart
    exact h.1 (List.cons.inj hmore).1

/-- Texts that single bars divide are passed over whole, as none of them is empty. -/
theorem splitBars_joined {texts : List (List Char)} (h : ∀ t ∈ texts, t ≠ [] ∧ '|' ∉ t) :
    splitTextChars "||".toList acc (['|'].intercalate texts ++ rest) =
      splitTextChars "||".toList ((['|'].intercalate texts).reverse ++ acc) rest := by
  induction texts generalizing acc with
  | nil => rfl
  | cons t texts ih =>
    obtain ⟨⟨-, ht⟩, htexts⟩ := List.forall_mem_cons.1 h
    cases texts with
    | nil =>
      rw [List.intercalate_singleton]
      exact splitBars_append ht
    | cons next texts =>
      have hnext : (['|'].intercalate (next :: texts) ++ rest).head? ≠ some '|' := by
        obtain ⟨c, cs, rfl⟩ := List.exists_cons_of_ne_nil (htexts next List.mem_cons_self).1
        have hc := (htexts (c :: cs) List.mem_cons_self).2
        rw [List.mem_cons, not_or] at hc
        cases texts <;> simp [Ne.symm hc.1]
      rw [List.intercalate_cons_cons, List.append_assoc, List.append_assoc, List.singleton_append, splitBars_append ht,
        splitBars_bar hnext, ih htexts]
      simp

/-- Joined twice, by a bar and by two, texts are parted at the two bars into what the one bar joined. -/
theorem splitBars_joined_twice {sets : List (List (List Char))} (hne : sets ≠ [])
    (h : ∀ texts ∈ sets, ∀ t ∈ texts, t ≠ [] ∧ '|' ∉ t) :
    splitTextChars "||".toList [] ("||".toList.intercalate (sets.map ['|'].intercalate)) =
      sets.map ['|'].intercalate := by
  induction sets with
  | nil => exact absurd rfl hne
  | cons texts sets ih =>
    obtain ⟨htexts, hsets⟩ := List.forall_mem_cons.1 h
    cases sets with
    | nil =>
      rw [List.map_singleton, List.intercalate_singleton, ← List.append_nil (['|'].intercalate texts),
        splitBars_joined htexts, splitBars_nil]
      simp
    | cons next sets =>
      rw [List.map_cons, List.map_cons, List.intercalate_cons_cons, List.append_assoc, splitBars_joined htexts,
        splitBars_bars, ← List.map_cons, ih (List.cons_ne_nil _ _) hsets]
      simp

end Bars

end Text

namespace Rule

/-! ## Writing header sets -/

/-- A column header that can be written into a definition: there is something in it, no blank at its ends, and no
character that would end it. -/
structure HeaderName (name : String) : Prop where
  nonempty : name ≠ ""
  bare : Text.Bare name.toList
  plain : ∀ c ∈ name.toList, c ∉ ['|', ';', ')']

instance (name : String) : Decidable (HeaderName name) :=
  have hall : name.toList.all (· ∉ ['|', ';', ')']) = true ↔ ∀ c ∈ name.toList, c ∉ ['|', ';', ')'] := by simp
  decidable_of_iff (name ≠ "" ∧ Text.Bare name.toList ∧ name.toList.all (· ∉ ['|', ';', ')']) = true)
    ⟨fun h => ⟨h.1, h.2.1, hall.1 h.2.2⟩, fun h => ⟨h.nonempty, h.bare, hall.2 h.plain⟩⟩

/-- Header sets that can be written: there is one at least, each has a column, and the columns have such headers. -/
structure Writable (sets : List (List String)) : Prop where
  nonempty : sets ≠ []
  columns : ∀ names ∈ sets, names ≠ []
  names : ∀ names ∈ sets, ∀ name ∈ names, HeaderName name

/-- Header sets written out: bars between the headers of a table, two bars between tables. -/
def written (sets : List (List String)) : String :=
  String.intercalate "||" (sets.map (String.intercalate "|"))

/-- Metadata that defines tables with the header sets. -/
def tableMetadata (sets : List (List String)) : String := "Table;Headers=" ++ written sets

/-- The line that defines a kind of blocks by metadata. -/
def definitionLine (metadata title : String) : String := "// DefineHeader(" ++ metadata ++ "): " ++ title

section Writable

variable {sets : List (List String)}

theorem HeaderName.chars {name : String} (h : HeaderName name) : name.toList ≠ [] ∧ '|' ∉ name.toList :=
  ⟨by simpa using h.nonempty, fun hmem => h.plain _ hmem (by decide)⟩

theorem toList_written (sets : List (List String)) :
    (written sets).toList =
      "||".toList.intercalate (sets.map fun names => ['|'].intercalate (names.map String.toList)) := by
  rw [written, String.toList_intercalate, List.map_map]
  congr 1
  apply List.map_congr_left
  intro names _
  exact String.toList_intercalate

/-- A written character is a bar or one of a header. -/
theorem mem_written {c : Char} (h : c ∈ (written sets).toList) :
    c = '|' ∨ ∃ names ∈ sets, ∃ name ∈ names, c ∈ name.toList := by
  rw [toList_written] at h
  rcases Text.mem_intercalate h with hbar | ⟨text, htext, hc⟩
  · exact .inl (by simpa using hbar)
  · obtain ⟨names, hnames, rfl⟩ := List.mem_map.1 htext
    rcases Text.mem_intercalate hc with hbar | ⟨part, hpart, hc⟩
    · exact .inl (by simpa using hbar)
    · obtain ⟨name, hname, rfl⟩ := List.mem_map.1 hpart
      exact .inr ⟨names, hnames, name, hname, hc⟩

theorem Writable.not_mem (h : Writable sets) {c : Char} (hc : c ∈ [';', ')']) : c ∉ (written sets).toList := by
  intro hmem
  rcases mem_written hmem with rfl | ⟨names, hnames, name, hname, hcname⟩
  · exact absurd hc (by decide)
  · exact (h.names names hnames name hname).plain c hcname (List.mem_cons_of_mem _ hc)

theorem Writable.bare (h : Writable sets) : Text.Bare (written sets).toList := by
  rw [toList_written]
  refine (Text.bare_intercalate (by simpa using h.nonempty) ?_).2
  intro text htext
  obtain ⟨names, hnames, rfl⟩ := List.mem_map.1 htext
  refine Text.bare_intercalate (by simpa using h.columns names hnames) ?_
  intro part hpart
  obtain ⟨name, hname, rfl⟩ := List.mem_map.1 hpart
  have hheader := h.names names hnames name hname
  exact ⟨hheader.chars.1, hheader.bare⟩

/-! ## Reading them back -/

theorem splitText_written (h : Writable sets) :
    Text.splitText "||" (written sets) = sets.map (String.intercalate "|") := by
  have hfree : ∀ texts ∈ sets.map (List.map String.toList), ∀ t ∈ texts, t ≠ [] ∧ '|' ∉ t := by
    intro texts htexts t ht
    obtain ⟨names, hnames, rfl⟩ := List.mem_map.1 htexts
    obtain ⟨name, hname, rfl⟩ := List.mem_map.1 ht
    exact (h.names names hnames name hname).chars
  have hsplit := Text.splitBars_joined_twice (by simpa using h.nonempty) hfree
  rw [List.map_map] at hsplit
  rw [Text.splitText, toList_written]
  refine (congrArg (List.map String.ofList) hsplit).trans ?_
  rw [List.map_map]
  apply List.map_congr_left
  intro names _
  rw [← String.toList_inj, String.toList_intercalate]
  exact String.toList_ofList

theorem splitAt_bar {names : List String} (hne : names ≠ []) (h : ∀ name ∈ names, HeaderName name) :
    (Text.splitAt '|' (String.intercalate "|" names)).map Text.trim = names := by
  have hparts : ((String.intercalate "|" names).toList.splitOn '|') = names.map String.toList := by
    rw [String.toList_intercalate]
    apply List.splitOn_intercalate
    · intro part hpart
      obtain ⟨name, hname, rfl⟩ := List.mem_map.1 hpart
      exact (h name hname).chars.2
    · simpa using hne
  rw [Text.splitAt, hparts, List.map_map, List.map_map]
  refine (List.map_congr_left ?_).trans (List.map_id' names)
  intro name hname
  show Text.trim (String.ofList name.toList) = name
  rw [String.ofList_toList, Text.trim_of_bare (h name hname).bare]

theorem headerSets_written (h : Writable sets) : headerSets (written sets) = sets := by
  rw [headerSets, splitText_written h, List.map_map]
  refine (List.map_congr_left ?_).trans (List.map_id' sets)
  intro names hnames
  exact splitAt_bar (h.columns names hnames) (h.names names hnames)

theorem splitAt_tableMetadata (h : Writable sets) :
    Text.splitAt ';' (tableMetadata sets) = ["Table", "Headers=" ++ written sets] := by
  have hmetadata : tableMetadata sets =
      String.ofList ("Table".toList ++ ';' :: ("Headers=" ++ written sets).toList) := by
    rw [← String.toList_inj]
    simp [tableMetadata]
  have hvalue : ';' ∉ ("Headers=" ++ written sets).toList := by
    rw [String.toList_append, List.mem_append, not_or]
    exact ⟨by decide, h.not_mem List.mem_cons_self⟩
  rw [hmetadata, Text.splitAt_append, String.ofList_toList, String.ofList_toList, Text.splitAt_of_not_mem hvalue,
    Text.splitAt_of_not_mem (by decide), List.singleton_append]

theorem pair_headers (h : Writable sets) :
    Metadata.pair ("Headers=" ++ written sets) = ("Headers", written sets) := by
  have hcut : Text.cut? '=' ("Headers=" ++ written sets) = some ("Headers", written sets) := by
    have hchars : Text.cutChars? '=' ("Headers=" ++ written sets).toList =
        some ("Headers".toList, (written sets).toList) :=
      Text.cutChars?_eq_some_iff.2 ⟨by decide, by simp⟩
    rw [Text.cut?, hchars]
    simp
  have hkey : Text.trim "Headers" = "Headers" := by decide
  rw [Metadata.pair, hcut]
  simp only [hkey, Text.trim_of_bare h.bare]

/-- The rule that the metadata spells has just the header sets that were written. -/
theorem parse_tableMetadata (h : Writable sets) :
    Rule.parse (tableMetadata sets) = .ok ⟨.anywhere, .table sets, none⟩ := by
  have hflag : Metadata.pair "Table" = ("Table", "") := by decide
  have hdict : Metadata.parse (tableMetadata sets) = ⟨[("Table", ""), ("Headers", written sets)]⟩ := by
    rw [Metadata.parse, splitAt_tableMetadata h, List.map_cons, List.map_singleton, hflag, pair_headers h]
    rfl
  have hrule : ofDict ⟨[("Table", ""), ("Headers", written sets)]⟩ =
      .ok ⟨.anywhere, .table (headerSets (written sets)), none⟩ := rfl
  rw [Rule.parse, hdict, hrule, headerSets_written h]

end Writable

end Rule

namespace Manual

open Rule

/-- A definition of tables that is read puts their rule into the place of its title, and nothing is found. -/
theorem step_tableDefinition {sets : List (List String)} {title : String} (hsets : Writable sets)
    (htitle : Text.Bare title.toList) (m : Manual) (role : Role) (body : List String) (origin : Origin) :
    m.step role (.block ⟨"DefineHeader", tableMetadata sets, title, body, origin⟩) =
      ({ m with rules := m.rules.insert title ⟨.anywhere, .table sets, none⟩ }, []) := by
  have hdefine : m.rules.define title (tableMetadata sets) =
      .ok (m.rules.insert title ⟨.anywhere, .table sets, none⟩) := by
    rw [Registry.define, parse_tableMetadata hsets, Text.trim_of_bare htitle]
  have htake : m.take role ⟨"DefineHeader", tableMetadata sets, title, body, origin⟩ =
      ⟨{ m with rules := m.rules.insert title ⟨.anywhere, .table sets, none⟩ }, none⟩ := by
    show m.build (defineRule ⟨"DefineHeader", tableMetadata sets, title, body, origin⟩) = _
    rw [build, defineRule, Work.exec_read_bind, Work.exec_lift_bind, hdefine]
    rfl
  rw [step, htake]
  rfl

theorem parse?_definitionLine {sets : List (List String)} {title : String} (hsets : Writable sets)
    (htitle : Text.Bare title.toList) (hfeed : '\n' ∉ title.toList) :
    Header.parse? (definitionLine (tableMetadata sets) title) = some ⟨"DefineHeader", tableMetadata sets, title⟩ := by
  have hclosed : ')' ∉ (tableMetadata sets).toList := by
    rw [tableMetadata, String.toList_append, List.mem_append, not_or]
    exact ⟨by decide, hsets.not_mem (by decide)⟩
  have hword : Header.IsTitle "DefineHeader".toList := .one (by decide)
  have hstart : "// DefineHeader(" = "// " ++ "DefineHeader" ++ "(" := by decide
  have hline : definitionLine (tableMetadata sets) title =
      "// " ++ "DefineHeader" ++ "(" ++ tableMetadata sets ++ "): " ++ title :=
    congrArg (· ++ tableMetadata sets ++ "): " ++ title) hstart
  exact (congrArg Header.parse? hline).trans (Header.parse?_written hword hclosed hfeed htitle)

/-- A source of a definition alone: its block, and the end. -/
theorem events_definitionLine {sets : List (List String)} {title : String} (hsets : Writable sets)
    (htitle : Text.Bare title.toList) (hfeed : '\n' ∉ title.toList) (file : String) :
    Source.events file [definitionLine (tableMetadata sets) title] =
      [.block ⟨"DefineHeader", tableMetadata sets, title, [], ⟨file, 1⟩⟩, .gap] := by
  rw [Source.events, Source.eventsFrom_header (parse?_definitionLine hsets htitle hfeed), List.drop_nil,
    Source.eventsFrom]
  rfl

/-- **A definition of tables is read back as it was written.**  The header line gives its metadata and title, and
wherever the block stands it puts a rule for the title, with no demand on its place and just the header sets that were
written, and touches nothing else.  Read as a source of its own, the line adds the rule for that source; read as
configuration, for every source. -/
theorem table_definition_read_back (sets : List (List String)) (title : String) (hsets : Writable sets)
    (htitle : Text.Bare title.toList) (hfeed : '\n' ∉ title.toList) :
    let line := definitionLine (tableMetadata sets) title
    let rule : Rule := ⟨.anywhere, .table sets, none⟩
    (∃ h, Header.parse? line = some h ∧
      ∀ (m : Manual) (role : Role) (file : String) (l : Nat) (below : List String) (body : Body),
        Body.read l below = .ok body →
        m.step role (Source.headerEvent file l h below) = ({ m with rules := m.rules.insert title rule }, [])) ∧
      (∀ (m : Manual) (file : String),
        (m.readCode file [line]).2 = [] ∧
          ∀ t, (m.readCode file [line]).1.rules.get? t = if t = title then some rule else m.baseRules.get? t) ∧
      ∀ (m : Manual) (find : Finder) (file : String),
        (m.readConfiguration find file [line]).2 = [] ∧
          ∀ t, (m.readConfiguration find file [line]).1.baseRules.get? t =
            if t = title then some rule else m.baseRules.get? t := by
  intro line rule
  have hevents := events_definitionLine hsets htitle hfeed
  refine ⟨⟨_, parse?_definitionLine hsets htitle hfeed, ?_⟩, ?_, ?_⟩
  · intro m role file l below body hbody
    rw [Source.headerEvent, hbody]
    exact step_tableDefinition hsets htitle m role body.lines ⟨file, l⟩
  · intro m file
    have hread : m.readCode file [line] =
        ({ m.start with rules := m.baseRules.insert title rule, place := Place.outside.closeItem }, []) := by
      rw [readCode, hevents, stepAll, step_tableDefinition hsets htitle]
      rfl
    rw [hread]
    exact ⟨rfl, Registry.get?_insert m.baseRules title rule⟩
  · intro m find file
    have hread : m.readConfiguration find file [line] =
        ({ m.start with
            rules := m.baseRules.insert title rule, baseRules := m.baseRules.insert title rule
            place := Place.outside.closeItem }, []) := by
      rw [readConfiguration, hevents, stepAll, step_tableDefinition hsets htitle]
      rfl
    rw [hread]
    exact ⟨rfl, Registry.get?_insert m.baseRules title rule⟩

/-- Headers with a space, an equals sign and an opening parenthesis in them, read as configuration before anything
else. -/
theorem table_definition_read_back_mixed :
    let sets := [["Anchor Name", "x = y"], ["(a", "b"]]
    let line := "// DefineHeader(Table;Headers=Anchor Name|x = y||(a|b): Named Anchors"
    let read := (blank Settings.default).readConfiguration (fun _ => .ok []) "rc" [line]
    Writable sets ∧ Text.Bare "Named Anchors".toList ∧ '\n' ∉ "Named Anchors".toList ∧ read.2 = [] ∧
      read.1.baseRules.get? "Named Anchors" = some ⟨.anywhere, .table sets, none⟩ := by
  intro sets line read
  have hsets : Writable sets := ⟨by decide, by decide, by decide⟩
  have hline : definitionLine (tableMetadata sets) "Named Anchors" = line := by decide
  obtain ⟨-, -, hread⟩ := table_definition_read_back sets "Named Anchors" hsets (by decide) (by decide)
  obtain ⟨hfound, hrule⟩ := hread (blank Settings.default) (fun _ => .ok []) "rc"
  rw [hline] at hfound hrule
  exact ⟨hsets, by decide, by decide, hfound, hrule "Named Anchors"⟩

end Manual

end ScadManual
