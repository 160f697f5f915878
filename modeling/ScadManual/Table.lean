import ScadManual.Document.Node

/-!
# Tables

The body of a table block: rows, one per line, with `---` between one table and the next.  A line is cut at
its first `=` signs into at most as many cells as the header set of its table has columns.
-/

namespace ScadManual.Table

/-- The line between two tables. -/
def separator : String := "---"

/-- The cells of a line under headers. -/
def row (headers : List String) (line : String) : List String :=
  (Text.splitUpTo '=' (max headers.length 1) line).map Text.trim

/-- The tables of a body, or nothing when there are more of them than header sets.  A table without rows
is left out. -/
def parse? (headerSets : List (List String)) (body : List String) : Option TableInfo :=
  let parts := body.splitOn separator
  if headerSets.length < parts.length then none
  else
    some
      { headerSets
        tables := ((headerSets.zip parts).map fun (headers, lines) => lines.map (row headers)).filter
          (!·.isEmpty) }

end ScadManual.Table
