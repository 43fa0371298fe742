import DatabaseDump.Table

/-!
# Counts of a dump

What was written for each table, for each database and in all. The counts of a database and
those in all grow with every table; a database is entered when it is complete.
-/

namespace DatabaseDump

/-- What was written for one table. -/
structure TableStats where
  table : Value
  kind : Value := .text TableKind.ordinary.code
  rows : Nat := 0
  statements : Nat := 0
  /-- The side file, empty if there is none. -/
  path : String := ""

/-- What was written for one database. -/
structure DatabaseStats where
  name : Value
  tables : List TableStats := []
  totalRows : Nat := 0

namespace DatabaseStats

/-- Counts one more table. -/
def addTable (stats : DatabaseStats) (table : TableStats) : DatabaseStats :=
  { stats with
    tables := stats.tables ++ [table]
    totalRows := stats.totalRows + table.rows }

/-- The counts of a database some tables of which were counted one after the other. -/
def ofTables (name : Value) (tables : List TableStats) : DatabaseStats :=
  tables.foldl addTable { name }

/-- Counting tables adds them, and their rows, to what was counted before. -/
theorem foldl_addTable (stats : DatabaseStats) (tables : List TableStats) :
    tables.foldl addTable stats
      = ⟨stats.name, stats.tables ++ tables,
        (tables.map TableStats.rows).foldl (· + ·) stats.totalRows⟩ := by
  induction tables generalizing stats with
  | nil => rw [List.foldl_nil, List.append_nil, List.map_nil, List.foldl_nil]
  | cons table tables ih =>
    rw [List.foldl_cons, ih, addTable, List.append_assoc, List.map_cons, List.foldl_cons]
    rfl

theorem ofTables_eq (name : Value) (tables : List TableStats) :
    ofTables name tables = ⟨name, tables, (tables.map TableStats.rows).foldl (· + ·) 0⟩ := by
  rw [ofTables, foldl_addTable, List.nil_append]

@[simp] theorem name_ofTables (name : Value) (tables : List TableStats) :
    (ofTables name tables).name = name := by rw [ofTables_eq]

@[simp] theorem tables_ofTables (name : Value) (tables : List TableStats) :
    (ofTables name tables).tables = tables := by rw [ofTables_eq]

end DatabaseStats

/-- What was written in all. -/
structure DumpStats where
  databases : List DatabaseStats := []
  totalTables : Nat := 0
  totalRows : Nat := 0

namespace DumpStats

/-- Counts one more table. -/
def addTable (stats : DumpStats) (table : TableStats) : DumpStats :=
  { stats with
    totalTables := stats.totalTables + 1
    totalRows := stats.totalRows + table.rows }

/-- Enters a complete database. -/
def addDatabase (stats : DumpStats) (database : DatabaseStats) : DumpStats :=
  { stats with databases := stats.databases ++ [database] }

end DumpStats

end DatabaseDump
