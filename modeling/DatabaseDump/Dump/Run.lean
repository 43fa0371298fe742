import DatabaseDump.Dump.Plan
import DatabaseDump.Dump.Rows

/-!
# Dumping databases

A dump opens and closes with the switch for foreign keys, and between them stands a
section for each database. A section has a header, unless only some tables were asked
for, and a block for each definition of the plan: what drops the table, what creates
it, and its rows.
-/

namespace DatabaseDump.Dump

open Work

/-- The text of a creation statement. -/
def creationText (creation : Value) : Except Failure String :=
  match creation with
  | .text s => .ok s
  | other => .error (.creationShape other.shape)

/-- Writes a creation statement. -/
def writeCreation (creation : Value) (spaced : Bool) : Work Unit := do
  emit (.create (← ofResult (creationText creation)) spaced)

/-- What creates a database: the server says so, unless it belongs to another account. -/
def headerCreation (server : Server) (database type : Value) : Work Value :=
  if Catalog.isSubscription type then
    return .text ("CREATE DATABASE IF NOT EXISTS " ++ Sql.identifier database.toText)
  else Catalog.databaseCreation server database

/-- Writes the header of a section. -/
def writeHeader (server : Server) (database type : Value) : Work Unit := do
  let creation ← headerCreation server database type
  emit (.dropDatabase database.toText)
  writeCreation creation false
  emit (.useDatabase database.toText)

/-- Writes the block of an ordinary table. -/
def writeOrdinary (server : Server) (options : Options) (writer : Writer)
    (database : Value) (definition : Definition) : Work TableStats := do
  let table := definition.table
  emit (.dropTable table.name.toText)
  writeCreation definition.creation false
  if options.omitData then return { table := table.name, kind := table.kind }
  else
    let stats ← tableRows server writer options.filter database table.name
    return { stats with kind := table.kind }

/-- Writes the block of a definition. -/
def writeBlock (server : Server) (options : Options) (writer : Writer)
    (database : Value) (definition : Definition) : Work TableStats := do
  let table := definition.table
  match ← ofResult table.dumpedKind with
  | .ordinary => writeOrdinary server options writer database definition
  | .external =>
    emit (.externalMarker table.name.toText)
    emit (.dropTable table.name.toText)
    writeCreation definition.creation true
    return { table := table.name, kind := table.kind }
  | .view =>
    emit (.dropView table.name.toText)
    writeCreation definition.creation true
    return { table := table.name, kind := table.kind }

/-- Writes the block of a definition and counts it. -/
def countedBlock (server : Server) (options : Options) (writer : Writer)
    (database : Value) (definition : Definition) : Work TableStats := do
  let stats ← writeBlock server options writer database definition
  count (·.addTable stats)
  note .info ("  ✓ " ++ stats.table.toText ++ ": " ++ toString stats.rows ++ " rows")
  return stats

/-- Writes the blocks of definitions, each one added to the counts of their database. -/
def countedBlocks (server : Server) (options : Options) (writer : Writer)
    (database : Value) (definitions : List Definition) : Work DatabaseStats :=
  definitions.foldlM (fun stats definition => do
    return stats.addTable (← countedBlock server options writer database definition))
    { name := database }

/-- Writes the section of a database. -/
def writeSection (server : Server) (options : Options) (writer : Writer)
    (database : Value) : Work Unit := do
  let plan ← Plan.make server options database
  note .info ("Dumping " ++ toString plan.definitions.length ++ " table(s) from '"
    ++ database.toText ++ "'")
  if options.allTables then writeHeader server database plan.type
  let stats ← countedBlocks server options writer database plan.definitions
  count (·.addDatabase stats)

/-- To count tables as their blocks are written is to count them when all are written. -/
theorem countedBlocks_eq (server : Server) (options : Options) (writer : Writer)
    (database : Value) (definitions : List Definition) :
    countedBlocks server options writer database definitions = (do
      let tables ← definitions.mapM (countedBlock server options writer database)
      return .ofTables database tables) := by
  have hcounted (stats : DatabaseStats) :
      definitions.foldlM (fun stats definition => do
        return stats.addTable (← countedBlock server options writer database definition)) stats
      = (do
        let tables ← definitions.mapM (countedBlock server options writer database)
        return tables.foldl DatabaseStats.addTable stats) := by
    induction definitions generalizing stats with
    | nil => rfl
    | cons definition definitions ih =>
      simp only [List.foldlM_cons, List.mapM_cons, bind_assoc, pure_bind, ih, List.foldl_cons]
  exact hcounted { name := database }

theorem writeSection_eq (server : Server) (options : Options) (writer : Writer)
    (database : Value) : writeSection server options writer database = (do
      let plan ← Plan.make server options database
      note .info ("Dumping " ++ toString plan.definitions.length ++ " table(s) from '"
        ++ database.toText ++ "'")
      if options.allTables then writeHeader server database plan.type
      let tables ← plan.definitions.mapM (countedBlock server options writer database)
      count (·.addDatabase (.ofTables database tables))) := by
  simp only [writeSection, countedBlocks_eq, bind_assoc, pure_bind]

/-- Dumps every database asked for. The counts are those of the whole session. -/
def run (server : Server) (options : Options) (writer : Writer) : Work DumpStats := do
  let databases ← Plan.databases server options
  note .info ("Starting dump of " ++ toString databases.length ++ " database(s)")
  emit (.foreignKeyChecks false)
  databases.forM (writeSection server options writer)
  emit (.foreignKeyChecks true)
  return (← get).stats

end DatabaseDump.Dump
