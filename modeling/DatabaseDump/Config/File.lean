import DatabaseDump.Config
import DatabaseDump.Folder

/-!
# Reading configuration files

A configuration file is a document in the folder. It cannot be read when it is not
there, when it cannot be opened, or when its text is malformed.
-/

namespace DatabaseDump.Config

/-- What the text of a file says. -/
inductive Document where
  | settings (content : Value)
  | malformed
  deriving Inhabited

/-- The documents of a folder. -/
abbrev Documents := List (Location × Document)

/-- Why there is no configuration. -/
inductive LoadFault where
  | unreadable (failure : Failure)
  | malformed
  deriving DecidableEq, Repr

/-- The configuration in the file under a path; without a path there are no settings. -/
def load (folder : Folder) (documents : Documents) (environment : Environment)
    (path : String) : Except LoadFault Value :=
  if path.isEmpty then .ok (.object [])
  else match folder.openForReading path with
    | .error failure => .error (.unreadable failure)
    | .ok location =>
      match documents.lookup location with
      | some (.settings content) => .ok (ofContent environment content)
      | _ => .error .malformed

mutual

/-- The variables that the texts of a value refer to. -/
def mentioned : Value → List String
  | .text s => (referencesFrom 0 s.toList).map String.ofList
  | .list items => mentionedInItems items
  | .object fields => mentionedInFields fields
  | _ => []

/-- The variables that the items of a list refer to. -/
def mentionedInItems : List Value → List String
  | [] => []
  | item :: rest => mentioned item ++ mentionedInItems rest

/-- The variables that the values of fields refer to. -/
def mentionedInFields : List (String × Value) → List String
  | [] => []
  | (_, value) :: rest => mentioned value ++ mentionedInFields rest

end

end DatabaseDump.Config
