import DatabaseDump.Decimal.Shortest
import DatabaseDump.Text.Quoted
import DatabaseDump.Value

/-!
# The text of a value

A text stands for itself. Every other value has a written form, in which the texts
inside lists and fields are quoted.
-/

namespace DatabaseDump.Value

/-- Texts with a comma between neighbours. -/
def commaSeparated (parts : List String) : String := String.intercalate ", " parts

mutual

/-- The written form of a value, with texts quoted. -/
def display : Value → String
  | .null => "None"
  | .bool b => if b then "True" else "False"
  | .int n => toString n
  | .float x => Decimal.text x
  | .text s => Text.quoted s
  | .list items => "[" ++ commaSeparated (displayItems items) ++ "]"
  | .object fields => "\x7b" ++ commaSeparated (displayFields fields) ++ "\x7d"

/-- The written forms of the items of a list. -/
def displayItems : List Value → List String
  | [] => []
  | item :: rest => display item :: displayItems rest

/-- The written forms of fields. -/
def displayFields : List (String × Value) → List String
  | [] => []
  | (name, value) :: rest => (Text.quoted name ++ ": " ++ display value) :: displayFields rest

end

/-- The text that a value stands for. -/
def toText : Value → String
  | .text s => s
  | value => display value

end DatabaseDump.Value
