import DatabaseDump.Catalog
import DatabaseDump.Options
import DatabaseDump.ViewOrder

/-!
# Plans

A plan says what is to be dumped of a database: its type, and its definitions in the
order in which they are written. Planning asks the catalog only; it writes nothing.
-/

namespace DatabaseDump.Dump

open Work

/-- What is to be dumped of a database. -/
structure Plan where
  /-- The type of the database, empty for a regular one. -/
  type : Value
  definitions : List Definition

namespace Plan

/-- The databases that are to be dumped: all of them, or those named. -/
def databases (server : Server) (options : Options) : Work (List Value) :=
  if options.allDatabases then Catalog.databases server
  else ofResult options.databases.items

/-- The tables that are to be dumped of a database. -/
def tables (server : Server) (options : Options) (database type : Value) :
    Work (List Table) :=
  if Catalog.isSubscription type then
    Catalog.subscriptionTables server database options.tables
  else Catalog.tables server database options.tables options.sysAccount

/-- Pairs a table of a known kind with what creates it. -/
def define (server : Server) (database : Value) (table : Table) : Work Definition := do
  let _ ← ofResult table.dumpedKind
  return ⟨table, ← Catalog.tableCreation server database table.name⟩

/-- Puts definitions into the order of their creation, with a warning when that fails. -/
def arrange (definitions : List Definition) : Work (List Definition) := do
  if let some failure := ViewOrder.unsearchable? definitions then throw failure
  let (positions, stuck) := ViewOrder.positions ViewOrder.mentions definitions
  record (← ofResult (ViewOrder.warnings (ViewOrder.pick definitions stuck)))
  return ViewOrder.pick definitions positions

/-- The plan for a database. -/
def make (server : Server) (options : Options) (database : Value) : Work Plan := do
  let type ← Catalog.databaseType server database options.sysAccount
  let tables ← tables server options database type
  let definitions ← tables.mapM (define server database)
  return ⟨type, ← arrange definitions⟩

end Plan

end DatabaseDump.Dump
