import ScadManual.Log

/-!
# What a log holds

Entries are never taken back, and one that is there already is not added again; so an entry is in the log
exactly when it has been added once, and the order in which findings were recorded does not matter for what
the log says of a file.
-/

namespace ScadManual.Log

/-! ## Single entries -/

theorem entries_progress (log : Log) (text : String) : (log.progress text).entries = log.entries := by
  simp [progress, entries, Report.entry?]

/-- An entry that is there changes nothing. -/
theorem add_of_mem {log : Log} {e : LogEntry} (h : e ∈ log.entries) : log.add e = log :=
  if_pos ((log.seen_iff e).2 h)

theorem entries_add_of_not_mem {log : Log} {e : LogEntry} (h : e ∉ log.entries) :
    (log.add e).entries = log.entries ++ [e] := by
  have hnew : e ∉ log.seen := fun hseen => h ((log.seen_iff e).1 hseen)
  rw [add, if_neg hnew, entries, List.filterMap_append]
  rfl

theorem mem_add {log : Log} {e entry : LogEntry} :
    e ∈ (log.add entry).entries ↔ e ∈ log.entries ∨ e = entry := by
  by_cases hmem : entry ∈ log.entries
  · rw [add_of_mem hmem]
    constructor
    · exact .inl
    · rintro (h | rfl)
      · exact h
      · exact hmem
  · simp [entries_add_of_not_mem hmem]

theorem mem_entries_add (log : Log) (entry : LogEntry) : entry ∈ (log.add entry).entries :=
  mem_add.2 (.inr rfl)

/-! ## Findings -/

theorem mem_recordAll {log : Log} {found : List Finding} {e : LogEntry} :
    e ∈ (log.recordAll found).entries ↔ e ∈ log.entries ∨ ∃ f ∈ found, e = f.entry := by
  induction found generalizing log with
  | nil => simp [recordAll]
  | cons f found ih =>
    have hstep : log.recordAll (f :: found) = (log.add f.entry).recordAll found := rfl
    rw [hstep, ih, mem_add]
    simp [or_assoc]

/-! ## Files with errors -/

theorem fileHasErrors_iff {log : Log} {file : String} :
    log.fileHasErrors file = true ↔ ∃ e ∈ log.entries, e.severity = .error ∧ e.file = file := by
  rw [fileHasErrors, List.contains_iff_mem]
  exact log.bad_iff file

/-! ## Logs that grow -/

/-- The second log holds the entries of the first, and its other entries are about certain files. -/
structure Adds (about : String → Prop) (log log' : Log) : Prop where
  kept : ∀ e ∈ log.entries, e ∈ log'.entries
  added : ∀ e ∈ log'.entries, e ∈ log.entries ∨ about e.file

section Adds

variable {about more : String → Prop} {log log' log'' : Log} {file : String}

theorem adds_of_entries_eq (h : log'.entries = log.entries) : Adds about log log' := by
  refine ⟨fun e he => ?_, fun e he => .inl ?_⟩
  · rwa [h]
  · rwa [h] at he

theorem Adds.trans (h : Adds about log log') (h' : Adds about log' log'') : Adds about log log'' := by
  refine ⟨fun e he => h'.kept e (h.kept e he), fun e he => ?_⟩
  rcases h'.added e he with he | habout
  · exact h.added e he
  · exact .inr habout

theorem Adds.mono (h : Adds about log log') (hmore : ∀ f, about f → more f) : Adds more log log' :=
  ⟨h.kept, fun e he => (h.added e he).imp_right (hmore e.file)⟩

theorem adds_add (log : Log) {entry : LogEntry} (h : about entry.file) : Adds about log (log.add entry) := by
  refine ⟨fun e he => mem_add.2 (.inl he), fun e he => ?_⟩
  rcases mem_add.1 he with he | rfl
  · exact .inl he
  · exact .inr h

theorem adds_recordAll (log : Log) {found : List Finding} (h : ∀ f ∈ found, about f.origin.file) :
    Adds about log (log.recordAll found) := by
  refine ⟨fun e he => mem_recordAll.2 (.inl he), fun e he => ?_⟩
  rcases mem_recordAll.1 he with he | ⟨f, hf, rfl⟩
  · exact .inl he
  · exact .inr (h f hf)

/-- A file with errors keeps them. -/
theorem Adds.fileHasErrors (h : Adds about log log') (hfile : log.fileHasErrors file = true) :
    log'.fileHasErrors file = true := by
  obtain ⟨e, he, herror, hname⟩ := fileHasErrors_iff.1 hfile
  exact fileHasErrors_iff.2 ⟨e, h.kept e he, herror, hname⟩

/-- A file that no new entry is about has errors only if it had some. -/
theorem Adds.fileHasErrors_eq (h : Adds about log log') (hfile : ¬ about file) :
    log'.fileHasErrors file = log.fileHasErrors file := by
  rw [Bool.eq_iff_iff]
  refine ⟨fun hnew => ?_, h.fileHasErrors⟩
  obtain ⟨e, he, herror, rfl⟩ := fileHasErrors_iff.1 hnew
  rcases h.added e he with hold | habout
  · exact fileHasErrors_iff.2 ⟨e, hold, herror, rfl⟩
  · exact absurd habout hfile

end Adds

end ScadManual.Log
