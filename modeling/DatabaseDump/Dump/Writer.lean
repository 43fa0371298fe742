import DatabaseDump.Dump.Inserts
import DatabaseDump.Dump.SideFile
import DatabaseDump.Options

/-!
# Writers

Rows go into insert statements of the output or to side files, as the options say. The
characters to be escaped are looked at only when side files are written.
-/

namespace DatabaseDump.Dump

/-- Where the rows of tables go. -/
inductive Writer where
  | inserts (budget : Sql.Budget)
  | sideFiles (style : SideFile.Style)

/-- The writer that options ask for. -/
def Writer.ofOptions (options : Options) : Except Failure Writer :=
  match options.format with
  | .sql => .ok (.inserts (.ofValue options.bufferLength))
  | .csv => do
    let escaper ← Csv.Escaper.ofSetting options.escaping options.escapeChars
    return .sideFiles ⟨escaper, options.delimiter, options.localFile⟩

end DatabaseDump.Dump
