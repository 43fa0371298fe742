import DatabaseDump.Row

/-!
# Fields

The text of a cell in a side file. A cell without a value is written as a backslash
and the letter N; in all other fields every backslash is doubled.
-/

namespace DatabaseDump.Csv

open Text (Symbol symbols)

/-- The field of a cell that holds nothing. -/
def sentinel : List Symbol := [.char '\\', .char 'N']

/-- One symbol with backslashes doubled. -/
def doubled (s : Symbol) : List Symbol := if s = .char '\\' then [s, s] else [s]

/-- Doubles every backslash of a field; the sentinel stays as it is. -/
def doubleBackslashes (field : List Symbol) : List Symbol :=
  if field = sentinel then field else field.flatMap doubled

/-- The field of a cell, the same for every type. -/
def field : Cell → List Symbol
  | none => sentinel
  | some value => doubleBackslashes (symbols value)

end DatabaseDump.Csv
