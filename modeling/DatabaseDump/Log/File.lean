import DatabaseDump.Folder
import DatabaseDump.Log

/-!
# Log files

A log file takes every record that reaches its threshold as soon as it is logged, at the
end of what the file holds by then. So a file that is emptied in between keeps only the
records that are logged after that.
-/

namespace DatabaseDump.Log

/-- A log file that is being written. -/
structure Journal where
  location : Location
  threshold : Nat
  /-- The time stamp of its records. -/
  stamp : String
  deriving DecidableEq, Repr

/-- Adds records to a log file. -/
def Journal.enter (journal : Journal) (records : List Record) (folder : Folder) : Folder :=
  folder.append journal.location
    (Text.utf8 (lines journal.stamp (visible journal.threshold records)))

end DatabaseDump.Log
