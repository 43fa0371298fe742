import DatabaseDump.Session
import DatabaseDump.Sql.Budget

/-!
# Writing rows as insert statements

The rows of a table become one statement for each group of tuples. When the rows break
off, the statement that was still being filled is not written, and neither are the
blank lines that end a table. With a budget that no size can be compared with nothing
is written at all, unless the rows are too few for a comparison.
-/

namespace DatabaseDump.Dump.Inserts

open Work

/-- The groups of tuples of the rows of a table. -/
def groups (table : String) (budget : Sql.Budget) (columns : List Column) (rows : List Row) :
    Except Failure (List (List Bytes)) :=
  budget.groups table (rows.map (Sql.tuple (columns.map Column.tag)))

/-- What the log says about a table that was written. -/
def summary (stats : TableStats) : String :=
  "Table '" ++ stats.table.toText ++ "': " ++ toString stats.rows ++ " rows in "
    ++ toString stats.statements ++ " statement(s)"

/-- Borrows the two buffers that statements are filled in, and gives them back. -/
def useBuffers : Work Unit :=
  modify fun session => { session with pool := (session.pool.lend 2).giveBack }

/-- Writes the rows of a table. -/
def writeTable (budget : Sql.Budget) (table : Value) (columns : List Column)
    (source : RowSource Failure) : Work TableStats := do
  let name := table.toText
  useBuffers
  let groups ← ofResult (groups name budget columns source.rows)
  match source.failure with
  | some failure =>
    emitAll (groups.dropLast.map (.insert name))
    throw failure
  | none =>
    emitAll (groups.map (.insert name) ++ [.endOfRows])
    let stats : TableStats :=
      { table, rows := source.rows.length, statements := groups.length }
    note .debug (summary stats)
    return stats

end DatabaseDump.Dump.Inserts
