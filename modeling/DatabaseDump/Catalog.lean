import DatabaseDump.Connection
import DatabaseDump.Value.Search

/-!
# Asking the catalog

What databases and tables there are, and which statements create them. The rows of
the catalog are read as they come, and a row that is too short for what is read of it
is a failure. A name should be a text, but it is passed on whatever it is; a request
for tables should list their names, but any value that holds them will do.
-/

namespace DatabaseDump.Catalog

open Work

/-- A cell of a row. -/
def cell (row : List Value) (i : Nat) : Except Failure Value :=
  match row[i]? with
  | some value => .ok value
  | none => .error .missingCell

/-- The first row of an answer. -/
def firstRow (rows : List (List Value)) : Except Failure (List Value) :=
  match rows with
  | row :: _ => .ok row
  | [] => .error .missingRow

/-- The first cells of rows. -/
def firstCells (rows : List (List Value)) : Except Failure (List Value) :=
  rows.mapM fun row => cell row 0

/-- All databases. -/
def databases (server : Server) : Work (List Value) := do
  ofResult (firstCells (← Connection.query server "SHOW DATABASES"))

/-- Restricts a query to the catalog of one account. -/
def accountFilter (sysAccount : Bool) : String :=
  if sysAccount then " AND account_id = 0" else ""

/-- The query for the type of a database. -/
def databaseTypeQuery (sysAccount : Bool) : String :=
  "SELECT datname, dat_type FROM mo_catalog.mo_database WHERE datname = %s"
    ++ accountFilter sysAccount

/-- The type in the only row that the catalog has of a database, empty for a regular one. -/
def readDatabaseType (database : Value) : List (List Value) → Except Failure Value
  | [row] => do
    let type ← cell row 1
    return if type.isGiven then type else .text ""
  | _ => .error (.unknownDatabase database.toText)

/-- The type of a database. -/
def databaseType (server : Server) (database : Value) (sysAccount : Bool) : Work Value := do
  let rows ← Connection.query server (databaseTypeQuery sysAccount) (.list [database])
  ofResult (readDatabaseType database rows)

/-- Whether the type of a database says that it belongs to another account. -/
def isSubscription : Value → Bool
  | .text s => s == "subscription"
  | _ => false

/-- Whether the server keeps a table for its own use. -/
def isInternal : (name : Value) → Bool
  | .text s => "__mo_".toList.isPrefixOf s.toList || "%!%".toList.isPrefixOf s.toList
  | _ => false

/-- The table that a row of the catalog describes. -/
def tableOfRow : List Value → Except Failure Table
  | [.text name, kind] => .ok ⟨.text name, kind⟩
  | [name, _] => .error (.nameShape name.shape)
  | [] => .error (.tooFewCells 0)
  | [_] => .error (.tooFewCells 1)
  | _ => .error .tooManyCells

/-- The tables that rows of the catalog describe, without those of the server. -/
def tablesOfRows (rows : List (List Value)) : Except Failure (List Table) :=
  (·.filter fun table => !isInternal table.name) <$> rows.mapM tableOfRow

/-- Fails with the first name that cannot be looked up. -/
def checkKeys (names : List Value) : Except Failure Unit :=
  match names.find? (!·.isKey) with
  | some name => .error (.keyShape name.shape)
  | none => .ok ()

/-- Fails with the first requested table that was not found. -/
def checkFound (found : List Value) : (requested : List Value) → Except Failure Unit
  | [] => .ok ()
  | name :: rest =>
    if !name.isKey then .error (.keyShape name.shape)
    else if name.isAmong found then checkFound found rest
    else .error (.unknownTable name.toText)

/-- Fails when the requested tables cannot all be looked up among those that were found. -/
def checkRequested (tables : List Table) (requested : Value) : Except Failure Unit := do
  let found := tables.map Table.name
  checkKeys found
  checkFound found (← requested.items)

/-- The names that a request restricts a query to; an empty one restricts nothing. -/
def restriction (requested : Value) : Except Failure (List Value) :=
  if requested.isGiven then requested.items else .ok []

/-- The query for the tables of a database. -/
def tablesQuery (names : List Value) (sysAccount : Bool) : String :=
  "SELECT relname, relkind FROM mo_catalog.mo_tables WHERE reldatabase = %s"
    ++ accountFilter sysAccount
    ++ if names.isEmpty then ""
      else " AND relname IN (" ++ String.intercalate ", " (names.map fun _ => "%s") ++ ")"

/-- The tables of a regular database, or those requested of it. -/
def tables (server : Server) (database requested : Value) (sysAccount : Bool) :
    Work (List Table) := do
  let names ← ofResult (restriction requested)
  let rows ← Connection.query server (tablesQuery names sysAccount) (.list (database :: names))
  let tables ← ofResult (tablesOfRows rows)
  ofResult (checkRequested tables requested)
  return tables

/-- The names among those that are requested; an empty request is one for all of them. -/
def requestedAmong (requested : Value) (names : List Value) : Except Failure (List Value) :=
  if requested.isGiven then requested.searchAll names else .ok names

/-- The tables of a database of another account, or those requested of it, all ordinary. -/
def subscriptionTables (server : Server) (database requested : Value) :
    Work (List Table) := do
  let rows ← Connection.query server ("SHOW TABLES FROM " ++ Sql.identifier database.toText)
  let names ← ofResult (firstCells rows)
  let names ← ofResult (requestedAmong requested names)
  let tables := names.map fun name => (⟨name, .text TableKind.ordinary.code⟩ : Table)
  ofResult (checkRequested tables requested)
  return tables

/-- The second cell of the first row, where the server puts a creation statement. -/
def readCreation (rows : List (List Value)) : Except Failure Value := do
  cell (← firstRow rows) 1

/-- The statement that creates a database. -/
def databaseCreation (server : Server) (database : Value) : Work Value := do
  ofResult (readCreation
    (← Connection.query server ("SHOW CREATE DATABASE " ++ Sql.identifier database.toText)))

/-- A table of a database as queries name it. -/
def qualified (database table : Value) : String :=
  Sql.identifier database.toText ++ "." ++ Sql.identifier table.toText

/-- The statement that creates a table or a view. -/
def tableCreation (server : Server) (database table : Value) : Work Value := do
  ofResult (readCreation
    (← Connection.query server ("SHOW CREATE TABLE " ++ qualified database table)))

end DatabaseDump.Catalog
