import DatabaseDump.Failure
import DatabaseDump.Text.Search
import DatabaseDump.Value

/-!
# Configuration files

A configuration file holds settings in sections. A text in it may refer to variables
of the environment as `${NAME}`; a variable that is not set is empty. Names of
settings are not searched for references.
-/

namespace DatabaseDump

/-- The variables of the environment. -/
abbrev Environment := List (String × String)

namespace Config

/-- The name in the reference that a text opens with. -/
def reference? : List Char → Option (List Char)
  | '$' :: '\x7b' :: rest =>
    let name := rest.takeWhile (· != '\x7d')
    if name.isEmpty || name.length == rest.length then none else some name
  | _ => none

/--
The names that a text refers to, from left to right. The count says how many
characters of the last reference are still to be skipped.
-/
def referencesFrom : Nat → List Char → List (List Char)
  | _, [] => []
  | skip + 1, _ :: rest => referencesFrom skip rest
  | 0, c :: rest =>
    match reference? (c :: rest) with
    | some name => name :: referencesFrom (name.length + 2) rest
    | none => referencesFrom 0 rest

/-- The value of a variable, empty when it is not set. -/
def valueOf (environment : Environment) (name : List Char) : List Char :=
  ((environment.lookup (String.ofList name)).getD "").toList

/-- A reference to a name. -/
def referenceTo (name : List Char) : List Char := '$' :: '\x7b' :: name ++ ['\x7d']

/-- Puts the value of one variable in every place where it is referred to. -/
def substitute (environment : Environment) (s name : List Char) : List Char :=
  Text.replaceAll (referenceTo name) (valueOf environment name) s

/--
Resolves the references of a text. They are looked up once, in the text as it was,
and then put in one after the other.
-/
def resolveText (environment : Environment) (s : String) : String :=
  String.ofList ((referencesFrom 0 s.toList).foldl (substitute environment) s.toList)

mutual

/-- Resolves the references in every text of a value. -/
def resolve (environment : Environment) : Value → Value
  | .text s => .text (resolveText environment s)
  | .list items => .list (resolveItems environment items)
  | .object fields => .object (resolveFields environment fields)
  | other => other

/-- Resolves the references in the items of a list. -/
def resolveItems (environment : Environment) : List Value → List Value
  | [] => []
  | item :: rest => resolve environment item :: resolveItems environment rest

/-- Resolves the references in the values of fields. -/
def resolveFields (environment : Environment) : List (String × Value) → List (String × Value)
  | [] => []
  | (name, value) :: rest =>
    (name, resolve environment value) :: resolveFields environment rest

end

/-- The configuration in a file; an empty file holds no settings. -/
def ofContent (environment : Environment) (content : Value) : Value :=
  if content.isGiven then resolve environment content else .object []

/-- The fields of a configuration as a whole. -/
def sections : Value → Except Failure Fields
  | .object fields => .ok fields
  | other => .error (.sectionShape other.shape)

/-- A section of a configuration, without fields if it is missing. -/
def sectionNamed (name : String) (config : Value) : Except Failure Value := do
  return ((← sections config).get? name).getD (.object [])

/-- The settings for the connection. -/
def connection (config : Value) : Except Failure Value := sectionNamed "connection" config

/-- The settings for the dump. -/
def dump (config : Value) : Except Failure Value := sectionNamed "dump" config

/-- The settings for the log. -/
def logging (config : Value) : Except Failure Value := sectionNamed "logging" config

/-- The fields of a section. -/
def fieldsOf : Value → Except Failure Fields
  | .object fields => .ok fields
  | other => .error (.notMapping other.shape)

/-- The settings for connection and dump together, the latter winning. -/
def settings (config : Value) : Except Failure Fields := do
  let first ← fieldsOf (← connection config)
  let second ← fieldsOf (← dump config)
  return first.merge second

end Config

end DatabaseDump
