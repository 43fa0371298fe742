import DatabaseDump.Sql.Insert

/-!
# Statements

The output of a dump is a list of statements, each with a text of its own. A name
stands between back-ticks just as it is.
-/

namespace DatabaseDump.Sql

/-- A name between back-ticks. -/
def identifier (name : String) : String := "`" ++ name ++ "`"

/-- What is needed to load the rows of a table from a side file. -/
structure Load where
  path : String
  table : String
  delimiter : String
  /-- Whether the file lies with the client. -/
  localFile : Bool
  deriving DecidableEq, Repr

/-- The statement that loads a side file. -/
def Load.text (load : Load) : String :=
  "LOAD DATA " ++ (if load.localFile then "LOCAL " else "") ++ "INFILE '" ++ load.path
    ++ "' INTO TABLE " ++ identifier load.table
    ++ " FIELDS TERMINATED BY '" ++ load.delimiter
    ++ "' ENCLOSED BY '\"' LINES TERMINATED BY '\\n' PARALLEL 'FALSE';\n"

/-- One piece of the output of a dump. -/
inductive Statement where
  | foreignKeyChecks (on : Bool)
  | dropDatabase (name : String)
  | useDatabase (name : String)
  | externalMarker (table : String)
  | dropTable (name : String)
  | dropView (name : String)
  /-- The statement that creates a database, a table or a view, as the server gives it. -/
  | create (definition : String) (spaced : Bool)
  | insert (table : String) (group : List Bytes)
  /-- The blank lines after the rows of a table. -/
  | endOfRows
  | load (file : Load)
  deriving DecidableEq, Repr

/-- A creation statement, closed by a semicolon if it is not yet, and set off if asked for. -/
def creationText (definition : String) (spaced : Bool) : String :=
  definition ++ (if definition.toList.getLast? = some ';' then "" else ";")
    ++ (if spaced then "\n\n" else "") ++ "\n"

/-- The bytes of a statement. -/
def Statement.bytes : Statement → Bytes
  | .foreignKeyChecks false => Text.utf8 "SET foreign_key_checks = 0;\n\n"
  | .foreignKeyChecks true => Text.utf8 "SET foreign_key_checks = 1;\n"
  | .dropDatabase name => Text.utf8 ("DROP DATABASE IF EXISTS " ++ identifier name ++ ";\n")
  | .useDatabase name => Text.utf8 ("USE " ++ identifier name ++ ";\n\n\n")
  | .externalMarker table => Text.utf8 ("/*!EXTERNAL TABLE " ++ identifier table ++ "*/\n")
  | .dropTable name => Text.utf8 ("DROP TABLE IF EXISTS " ++ identifier name ++ ";\n")
  | .dropView name => Text.utf8 ("DROP VIEW IF EXISTS " ++ identifier name ++ ";\n")
  | .create definition spaced => Text.utf8 (creationText definition spaced)
  | .insert table group => Insert.statement table group
  | .endOfRows => Text.utf8 "\n\n\n"
  | .load file => Text.utf8 file.text

end DatabaseDump.Sql
