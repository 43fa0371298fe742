import DatabaseDump.Catalog
import DatabaseDump.Dump.Writer

/-!
# Dumping the rows of a table

The rows are streamed from the server into the writer. The cursor is closed as soon as
they have been read to their end or to their failure, and it stays open when their
reading never began, because the side file could not be opened.
-/

namespace DatabaseDump.Dump

open Work

/-- The query for the rows of a table. -/
def rowsQuery (filter database table : Value) : String :=
  "SELECT * FROM " ++ Catalog.qualified database table
    ++ if filter.isGiven then " WHERE " ++ filter.toText else ""

/-- How much of a query the log shows. -/
def shownQueryLength : Nat := 200

/-- What the log says before the rows of a table are dumped. -/
def announcement (table : Value) (query : String) : String :=
  "Dumping table '" ++ table.toText ++ "' with query: " ++ Text.truncate shownQueryLength query

/-- Dumps the rows of a table. -/
def tableRows (server : Server) (writer : Writer) (filter database table : Value) :
    Work TableStats := do
  let query := rowsQuery filter database table
  note .info (announcement table query)
  let (columns, source) ← Connection.stream server query
  match writer with
  | .inserts budget =>
    call .closeCursor
    Inserts.writeTable budget table columns source
  | .sideFiles style =>
    let (location, delimiter) ← SideFile.openFile style database table
    call .closeCursor
    SideFile.writeRows style location delimiter database table columns source

end DatabaseDump.Dump
