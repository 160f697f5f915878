import ScadManual.Proofs.Log
import ScadManual.Proofs.Sorting

/-!
# The entries of a log

A log starts empty and takes entries and notes on progress one after the other.  Whatever comes in which order, its entries
are those that were added, each once and where it first came, and the files that it keeps as bad are those that its entries
of severity `error` name.
-/

namespace ScadManual.Log

variable {log : Log}

/-! ## Findings that are there -/

/-- Findings that are all there change nothing. -/
theorem recordAll_of_forall_mem {found : List Finding} (h : ∀ f ∈ found, f.entry ∈ log.entries) :
    log.recordAll found = log := by
  induction found with
  | nil => rfl
  | cons f found ih =>
    obtain ⟨hfirst, hrest⟩ := List.forall_mem_cons.1 h
    calc log.recordAll (f :: found)
      _ = (log.add f.entry).recordAll found := rfl
      _ = log.recordAll found := by rw [add_of_mem hfirst]
      _ = log := ih hrest

/-! ## Bad files -/

theorem hasErrors_iff : log.hasErrors = true ↔ ∃ e ∈ log.entries, e.severity = .error := by
  have hbad : log.hasErrors = true ↔ ∃ file, log.fileHasErrors file = true := by
    simp only [hasErrors, fileHasErrors, List.contains_iff_mem, Bool.not_eq_true', List.isEmpty_eq_false_iff_exists_mem]
  rw [hbad]
  constructor
  · rintro ⟨file, hfile⟩
    obtain ⟨e, he, herror, -⟩ := fileHasErrors_iff.1 hfile
    exact ⟨e, he, herror⟩
  · rintro ⟨e, he, herror⟩
    exact ⟨e.file, fileHasErrors_iff.2 ⟨e, he, herror, rfl⟩⟩

theorem errorCount_pos_iff : 0 < log.errorCount ↔ ∃ e ∈ log.entries, e.severity = .error := by
  rw [errorCount, List.length_pos_iff_exists_mem]
  simp only [List.mem_filter, beq_iff_eq]

/-! ## Histories -/

/-- Takes one more report: an entry is added, progress is noted. -/
def take (log : Log) : Report → Log
  | .entry e => log.add e
  | .progress text => log.progress text

/-- The step: an entry goes behind the others unless it is one of them. -/
theorem entries_take (log : Log) (r : Report) :
    (log.take r).entries = log.entries ++ r.entry?.toList.filter fun e => !log.entries.contains e := by
  cases r with
  | progress text =>
    rw [take, entries_progress]
    exact (List.append_nil _).symm
  | entry e =>
    rw [take]
    by_cases h : e ∈ log.entries
    · rw [add_of_mem h]
      simp [Report.entry?, h]
    · rw [entries_add_of_not_mem h]
      simp [Report.entry?, h]

/-- The run: after any reports the entries are the ones added, without repetitions. -/
theorem entries_foldl_take (reports : List Report) :
    (reports.foldl take empty).entries = (reports.filterMap Report.entry?).eraseDups := by
  rw [keys_foldl entries_take empty reports]
  simp [empty, entries]

/-- **A log keeps each entry once, and the bad files of what it keeps.**  After any history the entries are those that were
added, in the order in which they first came.  A file has errors exactly when an entry of severity `error` names it, and the
log has errors exactly when it counts some. -/
theorem keeps_first_of_each (reports : List Report) :
    let log := reports.foldl take empty
    let added := reports.filterMap Report.entry?
    (∀ e, e ∈ log.entries ↔ e ∈ added) ∧
      log.entries.Pairwise (fun e e' => added.idxOf e < added.idxOf e') ∧
      (∀ file, log.fileHasErrors file = true ↔ ∃ e ∈ log.entries, e.file = file ∧ e.severity = .error) ∧
      (log.hasErrors = true ↔ 0 < log.errorCount) := by
  intro log added
  have hentries : log.entries = added.eraseDups := entries_foldl_take reports
  refine ⟨fun e => ?_, ?_, fun file => ?_, ?_⟩
  · rw [hentries, List.mem_eraseDups]
  · rw [hentries]
    exact pairwise_eraseDups added
  · rw [fileHasErrors_iff]
    simp only [and_comm]
  · rw [hasErrors_iff, errorCount_pos_iff]

/-- A problem that is found again is there once; a notice makes no file bad. -/
example :
    let log := [.entry ⟨"a.scad", 3, "broken", .error⟩, .entry ⟨"b.scad", 1, "odd", .notice⟩, .progress "Writing...",
      .entry ⟨"a.scad", 3, "broken", .error⟩, .entry ⟨"a.scad", 9, "broken", .error⟩].foldl take empty
    log.entries.map (·.line) = [3, 1, 9] ∧ log.badFiles = ["a.scad"] := by
  decide

end ScadManual.Log
