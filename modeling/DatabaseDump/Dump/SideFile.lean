import DatabaseDump.Csv.Record
import DatabaseDump.Session

/-!
# Writing rows to side files

The rows of a table go to a file of their own in the working directory, named after
database and table, and one statement loads it. The file is opened before the
delimiter is looked at, and the statement is written only after the last row.
-/

namespace DatabaseDump.Dump.SideFile

open Work

/-- The path of the side file of a table. -/
def path (base : Path) (database table : Value) : Path :=
  base.join (.ofText (database.toText ++ "_" ++ table.toText ++ ".csv"))

/-- How side files are written and loaded. -/
structure Style where
  escaper : Csv.Escaper := {}
  delimiter : Value := .text ","
  localFile : Bool := true

/-- The single character that fields are delimited by. -/
def delimiterChar : Value → Except Failure Char
  | .text s =>
    match s.toList with
    | [c] => .ok c
    | _ => .error .delimiterLength
  | other => .error (.delimiterShape other.shape)

/-- Opens the side file of a table: an empty file, and the delimiter for its records. -/
def openFile (style : Style) (database table : Value) : Work (Location × Char) := do
  let folder := (← get).folder
  let location ← ofResult (folder.openForWriting (path folder.basePath database table))
  modify fun session => { session with folder := session.folder.put location [] }
  return (location, ← ofResult (delimiterChar style.delimiter))

/-- What the log says about a table that was written. -/
def summary (stats : TableStats) : String :=
  "Table '" ++ stats.table.toText ++ "': " ++ toString stats.rows ++ " rows written to "
    ++ stats.path

/-- Writes the rows of a table to its open side file, then the statement that loads it. -/
def writeRows (style : Style) (location : Location) (delimiter : Char)
    (database table : Value) (columns : List Column) (source : RowSource Failure) :
    Work TableStats := do
  let content := Csv.fileBytes style.escaper delimiter (columns.map Column.tag) source.rows
  modify fun session => { session with folder := session.folder.put location content }
  if let some failure := source.failure then throw failure
  let path := (path (← get).folder.basePath database table).text
  emit (.load ⟨path, table.toText, String.singleton delimiter, style.localFile⟩)
  let stats : TableStats := { table, rows := source.rows.length, statements := 1, path }
  note .debug (summary stats)
  return stats

/-- Writes the rows of a table, opening its side file first. -/
def writeTable (style : Style) (database table : Value) (columns : List Column)
    (source : RowSource Failure) : Work TableStats := do
  let (location, delimiter) ← openFile style database table
  writeRows style location delimiter database table columns source

end DatabaseDump.Dump.SideFile
