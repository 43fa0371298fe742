import DatabaseDump.Failure
import DatabaseDump.Text.Search
import DatabaseDump.Value.Equality

/-!
# Searching a value

A text is searched for a text within it, a list for one of its items, and fields for
one of their names. A value that cannot be searched, or not for such a thing, is a
failure; nothing is found in it.
-/

namespace DatabaseDump.Value

/-- Whether a value holds another one. -/
def holds : (whole sought : Value) → Bool
  | .text s, .text part => Text.contains s part
  | .list items, sought => sought.isAmong items
  | .object fields, .text name => fields.any fun field => field.1 == name
  | _, _ => false

/-- Why a value cannot be searched for another one. -/
def searchFailure? : (whole sought : Value) → Option Failure
  | .text _, .text _ | .list _, _ => none
  | .text _, sought => some (.soughtShape sought.shape)
  | .object _, sought => if sought.isKey then none else some (.keyShape sought.shape)
  | whole, _ => some (.notSearchable whole.shape)

/-- Searches a value for another one. -/
def search (whole sought : Value) : Except Failure Bool :=
  match searchFailure? whole sought with
  | some failure => .error failure
  | none => .ok (whole.holds sought)

/-- The first failure when a value is searched for others in turn, else those that it holds. -/
def searchAll (whole : Value) (sought : List Value) : Except Failure (List Value) :=
  match sought.findSome? whole.searchFailure? with
  | some failure => .error failure
  | none => .ok (sought.filter whole.holds)

/-- A list can be searched for everything. -/
@[simp] theorem searchAll_list (items sought : List Value) :
    (Value.list items).searchAll sought = .ok (sought.filter (·.isAmong items)) := by
  have h : sought.findSome? (Value.list items).searchFailure? = none := by
    simp [List.findSome?_eq_none_iff, searchFailure?]
  simp [searchAll, h]
  rfl

end DatabaseDump.Value
