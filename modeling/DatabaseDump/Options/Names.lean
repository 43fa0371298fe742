import DatabaseDump.Text.Blank
import DatabaseDump.Text.Search
import DatabaseDump.Value.Display
import DatabaseDump.Value.Items

/-!
# Lists of names

Names are given as one text with commas between them, or as a list. Blanks around a
name are dropped, and so are names that are blank altogether.
-/

namespace DatabaseDump.Options

/-- The texts of the items that a setting lists. -/
def listed : Value → Except Failure (List String)
  | .null => .ok []
  | .text s => .ok ((Text.splitOnChar ',' s.toList).map String.ofList)
  | other => (·.map Value.toText) <$> other.items

/-- The names that a setting lists. -/
def names (setting : Value) : Except Failure (List String) :=
  (fun items => (items.map Text.trim).filter fun name => !name.isEmpty) <$> listed setting

end DatabaseDump.Options
