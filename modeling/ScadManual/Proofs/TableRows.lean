import ScadManual.Proofs.BlockText

/-!
# Rows of tables and the headers above them

Separators divide the body of a table block into groups of rows.  A row is cut into cells by the header set with the
number of its group, that is, with the number of separators before it.  A block keeps the groups that have rows, and
its page puts them under the header sets from the first on.  So a group stands under the header set by which its rows
were cut as long as no group before it is without rows, and under an earlier one otherwise.
-/

namespace ScadManual

namespace Table

/-! ## Groups of rows -/

/-- The rows that follow exactly `k` separators. -/
def rowsAfter (body : List String) (k : Nat) : List String :=
  (body.zipIdx.filter fun (line, i) => line != separator && (body.take i).count separator == k).map (·.1)

/-- The numbers of the groups that have rows. -/
def filled (body : List String) : List Nat :=
  (List.range (body.count separator + 1)).filter fun k => !(rowsAfter body k).isEmpty

/-- The number of groups with rows before group `k`. -/
def shownUnder (body : List String) (k : Nat) : Nat :=
  (List.range k).countP fun j => !(rowsAfter body j).isEmpty

/-- A line in front of others counts for itself, and as a separator also for all that follow. -/
theorem rowsAfter_cons (line : String) (rest : List String) (k : Nat) :
    rowsAfter (line :: rest) k = (if line ≠ separator ∧ k = 0 then [line] else []) ++
      (rest.zipIdx.filter fun (l, i) =>
        l != separator && (line :: rest.take i).count separator == k).map (·.1) := by
  rw [rowsAfter, List.zipIdx_cons, List.filter_cons, List.zipIdx_succ, List.filter_map]
  by_cases hfirst : line ≠ separator ∧ k = 0
  · simp [hfirst, Function.comp_def]
  · have hnot : ¬((line != separator && ((line :: rest).take 0).count separator == k) = true) := by
      intro h
      simp only [List.take_zero, List.count_nil, Bool.and_eq_true, bne_iff_ne, beq_iff_eq] at h
      exact hfirst ⟨h.1, h.2.symm⟩
    rw [if_neg hfirst, if_neg hnot]
    simp [Function.comp_def]

theorem rowsAfter_row {line : String} (hline : line ≠ separator) (rest : List String) (k : Nat) :
    rowsAfter (line :: rest) k = (if k = 0 then [line] else []) ++ rowsAfter rest k := by
  rw [rowsAfter_cons]
  simp [hline, rowsAfter]

/-- All that follows a separator is one group further on. -/
theorem rowsAfter_separator (rest : List String) (k : Nat) :
    rowsAfter (separator :: rest) 0 = [] ∧ rowsAfter (separator :: rest) (k + 1) = rowsAfter rest k := by
  constructor
  · simp [rowsAfter_cons]
  · rw [rowsAfter_cons]
    simp [rowsAfter]

/-- The groups of a body, one after the other. -/
theorem splitOn_eq_map_rowsAfter (body : List String) :
    body.splitOn separator = (List.range (body.count separator + 1)).map (rowsAfter body) := by
  induction body with
  | nil => rfl
  | cons line rest ih =>
    rw [List.splitOn_cons_eq_if_modifyHead, ih]
    by_cases hline : line = separator
    · subst hline
      have hnext : rowsAfter (separator :: rest) ∘ Nat.succ = rowsAfter rest :=
        funext fun k => (rowsAfter_separator rest k).2
      rw [if_pos (beq_self_eq_true _), List.count_cons_self, List.range_succ_eq_map (n := rest.count separator + 1),
        List.map_cons, (rowsAfter_separator rest 0).1, List.map_map, hnext]
    · have hnext : ∀ k, rowsAfter (line :: rest) (k + 1) = rowsAfter rest (k + 1) := by
        intro k
        rw [rowsAfter_row hline, if_neg (Nat.succ_ne_zero k), List.nil_append]
      rw [if_neg (by simpa using hline), List.count_cons_of_ne hline, List.range_succ_eq_map, List.map_cons,
        List.map_cons, List.modifyHead_cons, rowsAfter_row hline, if_pos rfl, List.map_map, List.map_map]
      simp [Function.comp_def, hnext]

theorem mem_rowsAfter {body : List String} {k : Nat} {line : String} :
    line ∈ rowsAfter body k ↔ ∃ i, body[i]? = some line ∧ line ≠ separator ∧ (body.take i).count separator = k := by
  simp only [rowsAfter, List.mem_map, List.mem_filter, Prod.exists, List.mem_zipIdx_iff_getElem?]
  constructor
  · rintro ⟨_, i, ⟨hget, hrow⟩, rfl⟩
    exact ⟨i, hget, by simpa using hrow⟩
  · rintro ⟨i, hget, hrow⟩
    exact ⟨line, i, ⟨hget, by simpa using hrow⟩, rfl⟩

/-- No group has a greater number than there are separators. -/
theorem mem_filled {body : List String} {k : Nat} : k ∈ filled body ↔ rowsAfter body k ≠ [] := by
  rw [filled, List.mem_filter, List.mem_range]
  constructor
  · intro h
    simpa using h.2
  · intro h
    obtain ⟨line, hline⟩ := List.exists_mem_of_ne_nil _ h
    obtain ⟨i, -, -, rfl⟩ := mem_rowsAfter.1 hline
    have hle : (body.take i).count separator ≤ body.count separator := (List.take_sublist i body).count_le _
    exact ⟨by omega, by simpa using h⟩

/-- The group of a row has rows. -/
theorem mem_filled_of_row {body : List String} {i : Nat} {line : String} (hget : body[i]? = some line)
    (hline : line ≠ separator) : line ∈ rowsAfter body ((body.take i).count separator) ∧
      (body.take i).count separator ∈ filled body := by
  have hmem := mem_rowsAfter.2 ⟨i, hget, hline, rfl⟩
  exact ⟨hmem, mem_filled.2 (List.ne_nil_of_mem hmem)⟩

/-! ## Places among the groups with rows -/

/-- What a test leaves of the first numbers is numbered by how many of those before pass it. -/
theorem zipIdx_filter_range (test : Nat → Bool) (n : Nat) :
    ((List.range n).filter test).zipIdx =
      ((List.range n).filter test).map fun k => (k, (List.range k).countP test) := by
  induction n with
  | zero => rfl
  | succ n ih =>
    rw [List.range_succ, List.filter_append, List.zipIdx_append, ih, List.map_append]
    congr 1
    by_cases htest : test n = true
    · simp [htest, List.countP_eq_length_filter]
    · simp [htest]

theorem zipIdx_filled (body : List String) :
    (filled body).zipIdx = (filled body).map fun k => (k, shownUnder body k) :=
  zipIdx_filter_range _ _

theorem shownUnder_le (body : List String) (k : Nat) : shownUnder body k ≤ k := by
  have hle := List.countP_le_length (p := fun j => !(rowsAfter body j).isEmpty) (l := List.range k)
  rw [List.length_range] at hle
  exact hle

/-- A group keeps its number when no group before it is without rows. -/
theorem shownUnder_eq_iff {body : List String} {k : Nat} :
    shownUnder body k = k ↔ ∀ j < k, j ∈ filled body := by
  have hall := List.countP_eq_length (p := fun j => !(rowsAfter body j).isEmpty) (l := List.range k)
  rw [List.length_range] at hall
  rw [shownUnder, hall]
  simp [mem_filled]

/-! ## The tables of a block -/

/-- The rows of a group, cut by the header set of its number. -/
def cutRows (headerSets : List (List String)) (body : List String) (k : Nat) : List (List String) :=
  (rowsAfter body k).map (row (headerSets.getD k []))

theorem zip_splitOn {headerSets : List (List String)} {body : List String}
    (h : body.count separator < headerSets.length) :
    headerSets.zip (body.splitOn separator) =
      (List.range (body.count separator + 1)).map fun k => (headerSets.getD k [], rowsAfter body k) := by
  rw [splitOn_eq_map_rowsAfter]
  apply List.ext_getElem
  · simp only [List.length_zip, List.length_map, List.length_range]
    omega
  · intro k hk hk'
    have hlength : k < headerSets.length := by
      simp only [List.length_zip] at hk
      omega
    simp [List.getElem?_eq_getElem hlength]

/-- A block is accepted when it has fewer separators than header sets.  Its tables are the groups that have rows. -/
theorem parse?_eq_some_iff {headerSets : List (List String)} {body : List String} {info : TableInfo} :
    parse? headerSets body = some info ↔ body.count separator < headerSets.length ∧
      info = ⟨headerSets, (filled body).map (cutRows headerSets body)⟩ := by
  have hcount : (body.splitOn separator).length = body.count separator + 1 := by
    rw [splitOn_eq_map_rowsAfter, List.length_map, List.length_range]
  simp only [parse?, hcount]
  by_cases h : body.count separator < headerSets.length
  · have hempty : ∀ k, (!(cutRows headerSets body k).isEmpty) = !(rowsAfter body k).isEmpty := by
      intro k
      rw [cutRows, List.isEmpty_map]
    rw [if_neg (by omega), zip_splitOn h, List.map_map]
    show some (TableInfo.mk headerSets
      (((List.range (body.count separator + 1)).map (cutRows headerSets body)).filter (!·.isEmpty))) = some info ↔ _
    rw [List.filter_map, filled, Option.some_inj]
    simp only [Function.comp_def, hempty, h, true_and, eq_comm]
  · rw [if_pos (by omega)]
    simp [h]

end Table

/-- The header sets that a block has are those that its tables were read by. -/
theorem Manual.tabled_readAll (settings : Settings) (inputs : List Input) :
    ∀ id n, ((new settings).readAll inputs).document.node? id = some n →
      ∀ info, n.kind = .table info → Table.parse? info.headerSets n.body = some info := by
  intro id n hn info hk
  obtain ⟨headerSets, hparse⟩ := parsed_readAll settings inputs id n hn info hk
  obtain ⟨-, rfl⟩ := Table.parse?_eq_some_iff.1 hparse
  exact hparse

namespace Page.Setting

open Table

variable {s : Setting}

/-- The tables of a block, with the rows of each group under the header set that `under` gives. -/
def tableLines (s : Setting) (n : Node) (headerSets : List (List String)) (under : Nat → Nat) : List String :=
  (filled n.body).flatMap fun k =>
    Dialect.table (headerSets.getD (under k) [])
      ((cutRows headerSets n.body k).map fun cells => cells.map fun cell => (s.links n.origin cell).value)

/-- The groups with rows stand under the header sets from the first on. -/
theorem tableLines_shownUnder {n : Node} {headerSets : List (List String)}
    (h : n.body.count separator < headerSets.length) :
    (headerSets.zip ((filled n.body).map (cutRows headerSets n.body))).flatMap (fun (headers, rows) =>
        Dialect.table headers (rows.map fun cells => cells.map fun cell => (s.links n.origin cell).value)) =
      s.tableLines n headerSets (shownUnder n.body) := by
  have hlength : (filled n.body).length ≤ headerSets.length := by
    have hle := List.length_filter_le (fun k => !(rowsAfter n.body k).isEmpty)
      (List.range (n.body.count separator + 1))
    rw [List.length_range] at hle
    exact Nat.le_trans hle h
  have hzip : headerSets.zip ((filled n.body).map (cutRows headerSets n.body)) =
      (filled n.body).zipIdx.map fun (k, j) => (headerSets.getD j [], cutRows headerSets n.body k) := by
    apply List.ext_getElem
    · simp only [List.length_zip, List.length_map, List.length_zipIdx]
      omega
    · intro j hj hj'
      have hbound : j < headerSets.length := by
        simp only [List.length_zip] at hj
        omega
      simp [List.getElem?_eq_getElem hbound]
  rw [hzip, zipIdx_filled, tableLines]
  simp [List.flatMap_map]

/-- **Which header set the rows of a block stand under.**  The block stands on the page of its file.  Rows that follow
`k` separators are cut by header set `k`, and stand under the one whose number is that of the groups with rows before
theirs.  The two are the same when every group before theirs has rows; otherwise the page shows an earlier one. -/
theorem rows_shown_under (settings : Settings) (inputs : List Manual.Input) (dialect : Dialect) (id : NodeId)
    (n : Node) (info : TableInfo) :
    let m := (Manual.new settings).readAll inputs
    let s : Setting := ⟨m.library, dialect⟩
    m.document.node? id = some n → n.kind = .table info →
    (s.nodeLines id).Within (s.filePage (m.document.fileOf id)) ∧
      n.body.count separator < info.headerSets.length ∧
      (s.nodeLines id).value = (s.blockStart n).value ++ s.tableLines n info.headerSets (shownUnder n.body) ∧
      (∀ (i : Nat) (line : String), n.body[i]? = some line → line ≠ separator →
        line ∈ rowsAfter n.body ((n.body.take i).count separator) ∧
          (n.body.take i).count separator ∈ filled n.body) ∧
      ∀ k ∈ filled n.body, shownUnder n.body k ≤ k ∧
        (shownUnder n.body k = k ↔ ∀ j < k, j ∈ filled n.body) := by
  intro m s hn hk
  have hparse := Manual.tabled_readAll settings inputs id n hn info hk
  obtain ⟨hcount, hinfo⟩ := parse?_eq_some_iff.1 hparse
  have hleaf : n.kind.isLeaf = true := by rw [hk]; rfl
  have htexts : n.kind.hasTexts = true := by rw [hk]; rfl
  have hlines : s.nodeLines id = s.leafLines id n := nodeLines_of_isLeaf (s := s) hn hleaf
  rw [leafLines_eq htexts (Manual.headed_readAll settings inputs id n hn)] at hlines
  refine ⟨within_filePage (s := s) (Manual.forest_readAll settings inputs) id, hcount, ?_, ?_, ?_⟩
  · have htables : info.tables = (filled n.body).map (cutRows info.headerSets n.body) := congrArg TableInfo.tables hinfo
    rw [hlines, ← tableLines_shownUnder (s := s) hcount, ← htables]
    simp [titleLines, writeText, Node.block, hk, Kind.isList]
  · exact fun i line hget hline => mem_filled_of_row hget hline
  · exact fun k _ => ⟨shownUnder_le n.body k, shownUnder_eq_iff⟩

/-- A block whose second group is empty: the last row is cut into three cells and stands under two headers. -/
theorem rows_shown_under_gap :
    let m := (Manual.new Settings.default).readAll
      [.code "a.scad" ["// DefineHeader(Table;Headers=A|B||C|D||E|F|G): Data", "// File: a.scad", "// Data:",
        "//   a = 1", "//   ---", "//   ---", "//   b = 2 = 3"]]
    let s : Setting := ⟨m.library, .wiki⟩
    ∃ n info, m.document.node? 1 = some n ∧ n.kind = .table info ∧ (s.nodeLines 1).Within (s.filePage 0) ∧
      info.headerSets = [["A", "B"], ["C", "D"], ["E", "F", "G"]] ∧ rowsAfter n.body 2 = ["b = 2 = 3"] ∧
      shownUnder n.body 2 = 1 ∧
      (s.nodeLines 1).value =
        ["**Data:** ", "", "A | B", "- | -", "a | 1", "", "C | D", "- | -", "b | 2 | 3", ""] := by
  intro m s
  obtain ⟨n, info, ⟨hn, hk, hfile⟩, ⟨hheaders, hrows, hunder⟩, hvalue⟩ : ∃ n info,
      (m.document.node? 1 = some n ∧ n.kind = .table info ∧ m.document.fileOf 1 = 0) ∧
      (info.headerSets = [["A", "B"], ["C", "D"], ["E", "F", "G"]] ∧ rowsAfter n.body 2 = ["b = 2 = 3"] ∧
        shownUnder n.body 2 = 1) ∧
      (s.blockStart n).value ++ s.tableLines n info.headerSets (shownUnder n.body) =
        ["**Data:** ", "", "A | B", "- | -", "a | 1", "", "C | D", "- | -", "b | 2 | 3", ""] := by
    refine ⟨⟨.table ⟨[["A", "B"], ["C", "D"], ["E", "F", "G"]], [[["a", "1"]], [["b", "2", "3"]]]⟩, "Data", "",
      ["a = 1", "---", "---", "b = 2 = 3"], ⟨"a.scad", 3⟩, 0, some 0⟩,
      ⟨[["A", "B"], ["C", "D"], ["E", "F", "G"]], [[["a", "1"]], [["b", "2", "3"]]]⟩, ?_⟩
    decide +kernel
  obtain ⟨hwithin, -, hlines, -, -⟩ := rows_shown_under _ _ .wiki 1 n info hn hk
  exact ⟨n, info, hn, hk, hfile ▸ hwithin, hheaders, hrows, hunder, hlines.trans hvalue⟩

/-- Arguments that are all given by name, behind a separator: the page has them as given by position. -/
theorem arguments_by_name_under_position :
    let m := (Manual.new Settings.default).readAll
      [.code "a.scad" ["// File: a.scad", "// Function: f()", "// Arguments:", "//   ---", "//   r = Radius."]]
    let s : Setting := ⟨m.library, .wiki⟩
    ∃ n info, m.document.node? 3 = some n ∧ n.kind = .table info ∧
      info.headerSets = [[Registry.byPosition, Registry.whatItDoes], [Registry.byName, Registry.whatItDoes]] ∧
      n.body[1]? = some "r = Radius." ∧ (n.body.take 1).count separator = 1 ∧
      (s.filePage 0).value =
        ["# File: a.scad", "", "", "## File Contents", "", "- [`f()`](#function-f)", "", "", "### Function: f()", "",
          "**Arguments:** ", "",
          "<abbr title=\"These args can be used by position or by name.\">By&nbsp;Position</abbr> | What it does",
          "-------------------- | ------------", "`r`                  | Radius.", "", "---", ""] ∧
      (s.nodeLines 3).value ≠ (s.blockStart n).value ++ s.tableLines n info.headerSets fun k => k := by
  intro m s
  refine ⟨⟨.table ⟨[[Registry.byPosition, Registry.whatItDoes], [Registry.byName, Registry.whatItDoes]],
    [[["r", "Radius."]]]⟩, "Arguments", "", ["---", "r = Radius."], ⟨"a.scad", 3⟩, 0, some 2⟩,
    ⟨[[Registry.byPosition, Registry.whatItDoes], [Registry.byName, Registry.whatItDoes]], [[["r", "Radius."]]]⟩, ?_⟩
  decide +kernel

end Page.Setting

end ScadManual
