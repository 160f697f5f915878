import Mathlib.Data.List.Forall2
import ScadManual.Proofs.TableRows
import ScadManual.Proofs.Text

/-!
# Rows of a body and rows of its tables

The tables of a body hold a row for each of its lines, separators apart, in the order of the lines.  A row belongs to
the header set whose number is that of the separators before its line, so a body with fewer separators than there are
header sets never asks for a header set that is not there, wherever its separators stand.  The cells of a row are the
pieces of its line between the first equals signs, at most as many as the header set has columns.
-/

namespace ScadManual

namespace Text

/-! ## Pieces of a line -/

/-- The pieces of a line that is cut at its first separators into at most `count` pieces.  The separators that are left
stand in the last piece, and there are none while there could be one piece more. -/
structure Pieces (sep : Char) (count : Nat) (line : List Char) (pieces : List (List Char)) : Prop where
  nonempty : 0 < pieces.length
  length_le : pieces.length ≤ count
  joined : [sep].intercalate pieces = line
  before : ∀ piece ∈ pieces.dropLast, sep ∉ piece
  whole : pieces.length < count → ∀ piece ∈ pieces, sep ∉ piece

variable {sep : Char}

/-- A line that is left whole. -/
theorem Pieces.single {count : Nat} {line : List Char} (hcount : 0 < count) (h : 1 < count → sep ∉ line) :
    Pieces sep count line [line] where
  nonempty := Nat.one_pos
  length_le := hcount
  joined := List.intercalate_singleton
  before := by simp
  whole := by simpa using h

/-- One piece in front of the pieces of what follows the first separator. -/
theorem Pieces.cons {count : Nat} {first rest : List Char} {pieces : List (List Char)} (hfirst : sep ∉ first)
    (h : Pieces sep count rest pieces) : Pieces sep (count + 1) (first ++ sep :: rest) (first :: pieces) := by
  have hne : pieces ≠ [] := List.length_pos_iff.1 h.nonempty
  refine ⟨Nat.succ_pos _, Nat.succ_le_succ h.length_le, ?_, ?_, ?_⟩
  · rw [List.intercalate_cons_of_ne_nil hne, h.joined, List.append_assoc, List.singleton_append]
  · rw [List.dropLast_cons_of_ne_nil hne]
    exact List.forall_mem_cons.2 ⟨hfirst, h.before⟩
  · intro hlt
    exact List.forall_mem_cons.2 ⟨hfirst, h.whole (Nat.lt_of_succ_lt_succ hlt)⟩

theorem pieces_splitUpToChars (count : Nat) (line : List Char) :
    Pieces sep (count + 1) line (splitUpToChars sep (count + 1) line) := by
  induction count generalizing line with
  | zero => exact .single Nat.one_pos fun h => absurd h (Nat.lt_irrefl 1)
  | succ count ih =>
    cases hcut : cutChars? sep line with
    | none =>
      simp only [splitUpToChars, hcut]
      exact .single (Nat.succ_pos _) fun _ => cutChars?_eq_none_iff.1 hcut
    | some parts =>
      obtain ⟨hfirst, rfl⟩ := cutChars?_eq_some_iff.1 hcut
      simp only [splitUpToChars, hcut]
      exact .cons hfirst (ih _)

end Text

namespace Table

/-! ## Rows and the separators before them -/

/-- The rows among lines, in order, each with the number of separators before it, when `k` stand before the lines. -/
def numberedFrom (k : Nat) : List String → List (Nat × String)
  | [] => []
  | line :: rest => if line = separator then numberedFrom (k + 1) rest else (k, line) :: numberedFrom k rest

theorem numberedFrom_eq (k : Nat) (body : List String) :
    numberedFrom k body =
      (body.zipIdx.filter fun (line, _) => line != separator).map fun (line, i) =>
        (k + (body.take i).count separator, line) := by
  induction body generalizing k with
  | nil => rfl
  | cons line rest ih =>
    rw [numberedFrom, List.zipIdx_cons, List.zipIdx_succ, List.filter_cons, List.filter_map]
    by_cases hline : line = separator
    · subst hline
      rw [if_pos rfl, if_neg (by simp), ih, List.map_map]
      apply List.map_congr_left
      rintro ⟨other, i⟩ -
      show (k + 1 + _, other) = (k + (separator :: rest.take i).count separator, other)
      rw [List.count_cons_self, Nat.add_assoc, Nat.add_comm 1]
    · rw [if_neg hline, if_pos (by simpa using hline), ih, List.map_cons, List.map_map]
      refine congrArg₂ List.cons rfl (List.map_congr_left ?_)
      rintro ⟨other, i⟩ -
      show (k + _, other) = (k + (line :: rest.take i).count separator, other)
      rw [List.count_cons_of_ne hline]

/-- Groups of rows cut by the header sets from number `k` on: each row is cut by the one with the number of separators
before it.  The header sets last as long as a separator that is still to come finds one more. -/
theorem flatMap_zip_splitOn {headerSets : List (List String)} (k : Nat) (body : List String)
    (h : k + body.count separator < headerSets.length) :
    ((headerSets.drop k).zip (body.splitOn separator)).flatMap (fun (headers, lines) => lines.map (row headers)) =
      (numberedFrom k body).map fun (j, line) => row (headerSets.getD j []) line := by
  induction body generalizing k with
  | nil =>
    have hk : k < headerSets.length := h
    rw [List.drop_eq_getElem_cons hk, List.splitOn_nil, List.zip_cons_cons, List.zip_nil_right]
    rfl
  | cons line rest ih =>
    have hk : k < headerSets.length := by omega
    rw [List.splitOn_cons_eq_if_modifyHead, numberedFrom, List.drop_eq_getElem_cons hk]
    by_cases hline : line = separator
    · subst hline
      rw [List.count_cons_self] at h
      rw [if_pos (beq_self_eq_true _), if_pos rfl, List.zip_cons_cons, List.flatMap_cons]
      exact ih (k + 1) (by omega)
    · rw [List.count_cons_of_ne hline] at h
      have hrest := ih k h
      rw [List.drop_eq_getElem_cons hk] at hrest
      obtain ⟨group, groups, hgroups⟩ := List.exists_cons_of_ne_nil (List.splitOn_ne_nil separator rest)
      rw [if_neg (by simpa using hline), if_neg hline, List.map_cons, ← hrest, hgroups, List.modifyHead_cons,
        List.zip_cons_cons, List.zip_cons_cons, List.flatMap_cons, List.flatMap_cons]
      show (line :: group).map (row headerSets[k]) ++ _ = row (headerSets.getD k []) line :: (group.map _ ++ _)
      rw [List.getD_eq_getElem?_getD, List.getElem?_eq_getElem hk, List.map_cons, List.cons_append, Option.getD_some]

/-- The tables of a body hold a row for each of its rows, in order. -/
theorem flatten_tables {headerSets : List (List String)} {body : List String}
    (h : body.count separator < headerSets.length) :
    ((filled body).map (cutRows headerSets body)).flatten =
      (body.zipIdx.filter fun (line, _) => line != separator).map fun (line, i) =>
        row (headerSets.getD ((body.take i).count separator) []) line := by
  -- the groups that the tables leave out have no rows
  have hfilled : (filled body).map (cutRows headerSets body) =
      ((List.range (body.count separator + 1)).map (cutRows headerSets body)).filter (!·.isEmpty) := by
    rw [List.filter_map, filled]
    simp [Function.comp_def, cutRows]
  have hrows := flatMap_zip_splitOn 0 body (by simpa using h)
  rw [List.drop_zero, zip_splitOn h, List.flatMap_map, numberedFrom_eq, List.map_map] at hrows
  rw [hfilled, List.flatten_filter_not_isEmpty, ← List.flatMap_def]
  refine hrows.trans (List.map_congr_left ?_)
  rintro ⟨line, i⟩ -
  show row (headerSets.getD (0 + (body.take i).count separator) []) line = _
  rw [Nat.zero_add]

/-- The cells of a line under headers: its pieces between the first equals signs, at most one for each header, without
the blanks around them. -/
def IsRow (headers : List String) (line : String) (cells : List String) : Prop :=
  ∃ pieces, Text.Pieces '=' headers.length line.toList pieces ∧
    cells = pieces.map fun piece => Text.trim (String.ofList piece)

theorem isRow_row {headers : List String} (h : headers ≠ []) (line : String) :
    IsRow headers line (row headers line) := by
  obtain ⟨count, hcount⟩ := Nat.exists_eq_succ_of_ne_zero (List.length_pos_iff.2 h).ne'
  refine ⟨Text.splitUpToChars '=' headers.length line.toList, ?_, ?_⟩
  · rw [hcount]
    exact Text.pieces_splitUpToChars count line.toList
  · rw [row, Text.splitUpTo, List.map_map, Nat.max_eq_left (List.length_pos_iff.2 h)]
    rfl

/-- **Every row of a body is a row of its tables.**  A body is refused when it has as many separators as there are
header sets, or more.  Otherwise each of its lines, separators apart, has a row in the tables, in the order of the
lines; the header set with the number of separators before the line is there, and the row is cut by it.  The tables are
the groups between separators that have rows, so none is empty. -/
theorem rows_read_in_order (headerSets : List (List String)) (body : List String)
    (hsets : ∀ headers ∈ headerSets, headers ≠ []) :
    (parse? headerSets body = none ↔ headerSets.length ≤ body.count separator) ∧
      (body.count separator < headerSets.length → ∃ info, parse? headerSets body = some info ∧
        info.headerSets = headerSets ∧ (∀ table ∈ info.tables, table ≠ []) ∧
        info.tables.map List.length = (filled body).map (fun k => (rowsAfter body k).length) ∧
        List.Forall₂
          (fun (line, i) cells => ∃ headers, headerSets[(body.take i).count separator]? = some headers ∧
            IsRow headers line cells)
          (body.zipIdx.filter fun (line, _) => line != separator) info.tables.flatten) := by
  constructor
  · rw [Option.eq_none_iff_forall_ne_some]
    constructor
    · intro h
      apply Nat.le_of_not_lt
      intro hlt
      exact h _ (parse?_eq_some_iff.2 ⟨hlt, rfl⟩)
    · intro h info hinfo
      exact absurd (parse?_eq_some_iff.1 hinfo).1 (Nat.not_lt_of_le h)
  · intro h
    refine ⟨_, parse?_eq_some_iff.2 ⟨h, rfl⟩, rfl, ?_, ?_, ?_⟩
    · intro table htable
      obtain ⟨k, hk, rfl⟩ := List.mem_map.1 htable
      rw [cutRows, ne_eq, List.map_eq_nil_iff]
      exact mem_filled.1 hk
    · simp [cutRows]
    · rw [flatten_tables h, List.forall₂_map_right_iff, List.forall₂_same]
      rintro ⟨line, i⟩ -
      have hle : (body.take i).count separator ≤ body.count separator := (List.take_sublist i body).count_le _
      have hget := List.getElem?_eq_getElem (Nat.lt_of_le_of_lt hle h)
      refine ⟨_, hget, ?_⟩
      show IsRow _ line (row (headerSets.getD _ []) line)
      rw [List.getD_eq_getElem?_getD, hget]
      exact isRow_row (hsets _ (List.getElem_mem _)) line

/-- Separators in front, in a row and behind: two rows are left, each cut by its own header set, and the second keeps
the equals sign that would need a fourth column. -/
theorem rows_read_in_order_scattered :
    let headerSets := [["A", "B"], ["C"], ["D"], ["E", "F", "G"], ["H"]]
    let body := ["---", "x = 1 = 2", "---", "---", "p = q = r = s", "---"]
    (∀ headers ∈ headerSets, headers ≠ []) ∧
      parse? headerSets body = some ⟨headerSets, [[["x = 1 = 2"]], [["p", "q", "r = s"]]]⟩ ∧
      List.Forall₂
        (fun (line, i) cells => ∃ headers, headerSets[(body.take i).count separator]? = some headers ∧
          IsRow headers line cells)
        [("x = 1 = 2", 1), ("p = q = r = s", 4)] [["x = 1 = 2"], ["p", "q", "r = s"]] := by
  intro headerSets body
  have hsets : ∀ headers ∈ headerSets, headers ≠ [] := by decide
  have hread : parse? headerSets body = some ⟨headerSets, [[["x = 1 = 2"]], [["p", "q", "r = s"]]]⟩ := by decide
  obtain ⟨info, hinfo, -, -, -, hrows⟩ := (rows_read_in_order headerSets body hsets).2 (by decide)
  obtain rfl := Option.some.inj (hinfo.symm.trans hread)
  exact ⟨hsets, hread, hrows⟩

end Table

end ScadManual
