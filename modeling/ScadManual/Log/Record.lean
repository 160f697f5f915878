import ScadManual.Json
import ScadManual.Log

/-!
# The log as a report

The entries of the log as a JSON array of records, for tools that mark the lines of a source.
-/

namespace ScadManual.Log

/-- The file a report is written to. -/
def reportFile : String := "docsgen_report.json"

/-- The record of an entry. -/
def entryRecord (e : LogEntry) : Json :=
  .object
    [("file", .string e.file),
     ("line", .number e.line),
     ("title", .string ("DocsGen " ++ e.severity.name)),
     ("message", .string e.message),
     ("annotation_level", .string e.severity.name)]

/-- The text of the report. -/
def reportText (log : Log) : String :=
  (Json.array (log.entries.map entryRecord)).pretty

end ScadManual.Log
