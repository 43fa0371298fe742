import DatabaseDump.Column
import DatabaseDump.Text.Utf8

/-!
# Rows

A row is a list of cells, and a cell holds bytes or nothing. A row meets the columns
of its table one by one; what is left over on either side plays no part.
-/

namespace DatabaseDump

/-- What a row holds in one column: nothing, or bytes of the server. -/
abbrev Cell := Option Bytes

/-- One row of a result. -/
abbrev Row := List Cell

/-- The rows of a table, which may break off with a failure after the last one. -/
structure RowSource (ε : Type) where
  rows : List Row
  failure : Option ε := none
  deriving Repr

end DatabaseDump
