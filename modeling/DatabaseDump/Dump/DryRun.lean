import DatabaseDump.Dump.Plan

/-!
# Dry runs

A dry run plans every database and then tells in the log what would be dumped.
-/

namespace DatabaseDump.Dump.DryRun

open Work

/-- Tells about one table. -/
def tellTable (table : Table) : Work Unit := do
  let kind ← ofResult table.listedKind
  note .info ("  - " ++ table.name.toText ++ " (" ++ kind.word ++ ")")

/-- Tells about one database. -/
def tellDatabase (database : Value) (definitions : List Definition) : Work Unit := do
  note .info ("Would dump database: " ++ database.toText)
  if definitions.isEmpty then note .info "  (no tables)"
  definitions.forM fun definition => tellTable definition.table

/-- Tells about all databases. -/
def tell (plans : List (Value × List Definition)) : Work Unit :=
  plans.forM fun (database, definitions) => tellDatabase database definitions

/-- Plans every database asked for and tells about them. -/
def run (server : Server) (options : Options) : Work Unit := do
  note .info "DRY RUN MODE - No data will be dumped"
  let databases ← Plan.databases server options
  let plans ← databases.mapM fun database => do
    return (database, (← Plan.make server options database).definitions)
  tell plans

end DatabaseDump.Dump.DryRun
