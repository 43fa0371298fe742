import DatabaseDump.Failure

/-!
# The items of a value

Where several things are expected, a list gives its items, a text its characters and
fields their names. Nothing, truth values and numbers have no items at all.
-/

namespace DatabaseDump.Value

/-- The texts of single characters. -/
def characters (s : String) : List Value := s.toList.map fun c => .text (String.singleton c)

/-- What a value holds, one by one. -/
def items : Value → Except Failure (List Value)
  | .text s => .ok (characters s)
  | .list items => .ok items
  | .object fields => .ok (fields.map fun field => .text field.1)
  | other => .error (.notIterable other.shape)

@[simp] theorem items_list (list : List Value) : (Value.list list).items = .ok list := rfl

end DatabaseDump.Value
