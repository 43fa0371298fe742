import DatabaseDump.Csv.Escape
import DatabaseDump.Value.Equality

/-!
# Options

What is to be dumped, from where, and how it is to be written. Many options keep the
value that they were set to, whatever its shape, because only their use decides
whether it fits.
-/

namespace DatabaseDump

/-- How the rows of tables are written. -/
inductive Format where
  /-- As statements that insert them. -/
  | sql
  /-- To side files that are loaded. -/
  | csv
  deriving DecidableEq, Repr

/-- The name of a format. -/
def Format.name : Format → String
  | .sql => "sql"
  | .csv => "csv"

/-- The options of a dump. -/
structure Options where
  host : String := "127.0.0.1"
  port : Int := 6001
  user : String := "dump"
  password : String := "111"
  /-- The names of the databases asked for. -/
  databases : Value := .list []
  /-- The names of the tables asked for; what is empty means every table. -/
  tables : Value := .list []
  format : Format := .sql
  /-- Leave out the rows. -/
  omitData : Bool := false
  delimiter : Value := .text ","
  escaping : Bool := false
  escapeChars : Value := .text Csv.defaultEscapeChars
  /-- Side files lie with the client. -/
  localFile : Bool := true
  /-- The condition that rows have to meet; what is empty is none. -/
  filter : Value := .text ""
  sysAccount : Bool := false
  /-- The budget of an insert statement in bytes. -/
  bufferLength : Value := .int 1048576

namespace Options

/-- The word that asks for all databases when it stands alone. -/
def everyDatabase : String := "all"

/-- Whether all databases are asked for. -/
def allDatabases (options : Options) : Bool :=
  options.databases.equals (.list [.text everyDatabase])

/-- Whether every table is asked for. -/
def allTables (options : Options) : Bool := !options.tables.isGiven

end Options

end DatabaseDump
