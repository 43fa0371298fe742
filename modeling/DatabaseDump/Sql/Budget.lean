import DatabaseDump.Decimal.Binary
import DatabaseDump.Failure
import DatabaseDump.Sql.Insert
import DatabaseDump.Value.Equality

/-!
# Budgets of statements

A statement that holds several tuples must not be larger than its budget. A budget
should be a whole number of bytes. A number that no size exceeds is no limit, and a
value that no size can be compared with is a failure as soon as a size is compared
with it: when a second tuple comes.
-/

namespace DatabaseDump.Sql

/-- What limits the size of a statement. -/
inductive Budget where
  | bytes (count : Int)
  | unlimited
  /-- A value that no size can be compared with. -/
  | incomparable (shape : Shape)
  deriving DecidableEq, Repr

namespace Budget

/-- The budget in a number, which may be infinite or no number at all. -/
def ofFloat (x : Float) : Budget :=
  if x.isFinite then .bytes (Decimal.truncate x)
  else if x < 0 then .bytes 0
  else .unlimited

/-- The budget that a value stands for. -/
def ofValue : Value → Budget
  | .float x => ofFloat x
  | value => match value.whole? with
    | some count => .bytes count
    | none => .incomparable value.shape

/-- The groups of the tuples of a table under a budget. -/
def groups (table : String) (tuples : List Bytes) : Budget → Except Failure (List (List Bytes))
  | .bytes count => .ok (Insert.pack table count tuples)
  | .unlimited => .ok (if tuples.isEmpty then [] else [tuples])
  | .incomparable shape =>
    if tuples.length < 2 then .ok (tuples.map ([·])) else .error (.notComparable .int shape)

end Budget

end DatabaseDump.Sql
