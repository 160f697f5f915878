import ScadManual.Error

/-!
# The log

What a run reports, in order: entries about the sources and notes on its progress.  An entry that is
already there, with the same place, text and severity, is not added again.  Only entries of severity
`error` fail a run or mark a source as bad.  The log keeps the set of its entries and the bad files beside
the reports, so that it need not be searched for them.
-/

namespace ScadManual

/-- How serious an entry is. -/
inductive Severity where
  | notice
  | warning
  | error
deriving DecidableEq, Repr, Inhabited

/-- The name of a severity. -/
def Severity.name : Severity → String
  | .notice => "notice"
  | .warning => "warning"
  | .error => "error"

/-- An error in the hash store is a warning, since the store can be built again; all others are errors. -/
def Error.severity : Error → Severity
  | .corruptStore .. => .warning
  | _ => .error

/-- An entry of the log. -/
structure LogEntry where
  file : String
  line : Nat
  message : String
  severity : Severity
deriving DecidableEq, Repr, Inhabited

/-- An error and the place it was found at. -/
structure Finding where
  origin : Origin
  error : Error
deriving DecidableEq, Repr

/-- The entry of a finding. -/
def Finding.entry (f : Finding) : LogEntry :=
  ⟨f.origin.file, f.origin.line, f.error.message, f.error.severity⟩

/-- One thing reported. -/
inductive Report where
  | entry (e : LogEntry)
  /-- Progress of the run, which is no entry. -/
  | progress (text : String)
deriving DecidableEq, Repr

/-- The entry of a report, when it is one. -/
def Report.entry? : Report → Option LogEntry
  | .entry e => some e
  | .progress _ => none

/-- Everything reported so far, in order, the entries among it, and the files that are bad by it. -/
structure Log where
  reports : List Report
  seen : List LogEntry
  badFiles : List String
  /-- The entries seen are those reported. -/
  seen_iff : ∀ e, e ∈ seen ↔ e ∈ reports.filterMap Report.entry?
  /-- The bad files are those that an entry of severity `error` names. -/
  bad_iff : ∀ file, file ∈ badFiles ↔
    ∃ e ∈ reports.filterMap Report.entry?, e.severity = .error ∧ e.file = file
deriving DecidableEq, Repr

namespace Log

/-- Nothing reported. -/
def empty : Log := ⟨[], [], [], by simp, by simp⟩

/-- The entries, in order. -/
def entries (log : Log) : List LogEntry :=
  log.reports.filterMap Report.entry?

/-- The bad files with that of an entry, if the entry makes its file bad. -/
def mark (bad : List String) (e : LogEntry) : List String :=
  if e.severity = .error then bad.insert e.file else bad

theorem mem_mark {bad : List String} {e : LogEntry} {file : String} :
    file ∈ mark bad e ↔ file ∈ bad ∨ e.severity = .error ∧ e.file = file := by
  unfold mark
  split
  · next herror => simp [herror, or_comm, eq_comm]
  · next hother => simp [hother]

/-- Adds an entry unless it is there. -/
def add (log : Log) (e : LogEntry) : Log :=
  if e ∈ log.seen then log
  else
    { reports := log.reports ++ [.entry e]
      seen := log.seen.insert e
      badFiles := mark log.badFiles e
      seen_iff := fun e' => by
        simp [log.seen_iff, Report.entry?, or_comm]
      bad_iff := fun file => by
        simp [mem_mark, log.bad_iff, Report.entry?, or_and_right, exists_or] }

/-- Notes progress. -/
def progress (log : Log) (text : String) : Log :=
  { log with
    reports := log.reports ++ [.progress text]
    seen_iff := by simpa [Report.entry?] using log.seen_iff
    bad_iff := by simpa [Report.entry?] using log.bad_iff }

/-- Adds the entry of a finding. -/
def record (log : Log) (f : Finding) : Log :=
  log.add f.entry

/-- Adds the entries of findings, in order. -/
def recordAll (log : Log) (fs : List Finding) : Log :=
  fs.foldl record log

/-- Is the file bad? -/
def fileHasErrors (log : Log) (file : String) : Bool :=
  log.badFiles.contains file

/-- Is any file bad? -/
def hasErrors (log : Log) : Bool :=
  !log.badFiles.isEmpty

/-- The number of entries of severity `error`. -/
def errorCount (log : Log) : Nat :=
  (log.entries.filter (·.severity == .error)).length

end Log

end ScadManual
