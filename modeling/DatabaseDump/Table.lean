import DatabaseDump.Failure
import DatabaseDump.Value.Display

/-!
# Tables of the catalog

The catalog names every table together with a code for its kind. Three codes are
known: ordinary tables, external tables and views. The server also gives the
statement that creates a table; paired with it, a table is a definition.
-/

namespace DatabaseDump

/-- What a table is. -/
inductive TableKind where
  | ordinary
  | external
  | view
  deriving DecidableEq, Repr

namespace TableKind

/-- The code of a kind in the catalog. -/
def code : TableKind → String
  | .ordinary => "r"
  | .external => "e"
  | .view => "v"

/-- The word for a kind. -/
def word : TableKind → String
  | .ordinary => "ordinary"
  | .external => "external"
  | .view => "view"

/-- The kind that a cell of the catalog stands for. -/
def ofCell? : Value → Option TableKind
  | .text "r" => some .ordinary
  | .text "e" => some .external
  | .text "v" => some .view
  | _ => none

end TableKind

/-- A table with the code of its kind, both as the catalog gives them. -/
structure Table where
  name : Value
  kind : Value := .text TableKind.ordinary.code

namespace Table

/-- Whether a table is a view. -/
def isView (table : Table) : Bool := TableKind.ofCell? table.kind == some .view

/-- The kind of a table that is to be dumped. -/
def dumpedKind (table : Table) : Except Failure TableKind :=
  match TableKind.ofCell? table.kind with
  | some kind => .ok kind
  | none => .error (.unsupportedKind table.name.toText table.kind.toText)

/-- The kind of a table that is to be listed. -/
def listedKind (table : Table) : Except Failure TableKind :=
  match TableKind.ofCell? table.kind with
  | some kind => .ok kind
  | none => .error (.notAKind table.kind.display)

end Table

/-- A table with the answer to the question what creates it, which should be a text. -/
structure Definition where
  table : Table
  creation : Value

end DatabaseDump
