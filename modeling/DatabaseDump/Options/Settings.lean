import DatabaseDump.Decimal.Binary
import DatabaseDump.Log
import DatabaseDump.Options
import DatabaseDump.Options.Delimiter
import DatabaseDump.Options.Names
import DatabaseDump.Text.Numeral

/-!
# From settings to options

Settings are loose values under names. They are checked one after the other, and the
first one that does not fit is the failure. A budget outside of its limits is moved to
the nearer limit, with a warning in the log.
-/

namespace DatabaseDump.Options

/-- The smallest budget of an insert statement. -/
def minBufferLength : Int := 16384

/-- The largest budget of an insert statement. -/
def maxBufferLength : Int := 16777216

/-- The budget of an insert statement unless another one is set. -/
def defaultBufferLength : Int := 1048576

/-- A budget moved between its limits. -/
def clamp (length : Int) : Int :=
  if length < minBufferLength then minBufferLength
  else if maxBufferLength < length then maxBufferLength
  else length

/-- The warning that a budget was moved to a limit. -/
def clampWarning (relation : String) (limit : Int) : Log.Record :=
  ⟨.warning, "net_buffer_length must be " ++ relation ++ " than " ++ toString limit
    ++ ", set to " ++ toString limit⟩

/-- The warnings about a budget. -/
def clampWarnings (length : Int) : List Log.Record :=
  if length < minBufferLength then [clampWarning "greater" minBufferLength]
  else if maxBufferLength < length then [clampWarning "less" maxBufferLength]
  else []

/-- The whole number that a setting stands for; what is behind a point is dropped. -/
def wholeNumber : Value → Except Failure Int
  | .bool b => .ok (if b then 1 else 0)
  | .int n => .ok n
  | .float x =>
    if x.isNaN then .error .undefinedNumber
    else if x.isInf then .error .infiniteNumber
    else .ok (Decimal.truncate x)
  | .text s =>
    match Text.readInteger s with
    | .ok n => .ok n
    | .error fault => .error (.numeral fault)
  | other => .error (.notNumeric other.shape)

/-- The text of a setting, or another text if nothing is given. -/
def textOr (default : String) (setting : Value) : String :=
  if setting.isGiven then setting.toText else default

/-- The budget that is set, before it is moved between its limits. -/
def requestedLength (settings : Fields) : Except Failure Int :=
  match settings.getOrNull "net_buffer_length" with
  | .null => .ok defaultBufferLength
  | setting => wholeNumber setting

/-- The warnings about settings. -/
def warnings (settings : Fields) : List Log.Record :=
  match requestedLength settings with
  | .ok length => clampWarnings length
  | .error _ => []

/-- Whether a setting is switched on. -/
def isOn (settings : Fields) (name : String) : Bool := (settings.getOrNull name).isGiven

/-- The databases asked for, at least one. -/
def requestedDatabases (settings : Fields) : Except Failure (List String) := do
  let databases ← names (settings.getOrNull "database")
  if databases.isEmpty then throw .noDatabase
  return databases

/-- The host, which must not come with a port. -/
def requestedHost (settings : Fields) : Except Failure String := do
  let host := textOr "127.0.0.1" (settings.getOrNull "host")
  if host.toList.contains ':' then throw .colonInHost
  return host

/-- The delimiter, checked when side files are written. -/
def requestedDelimiter (settings : Fields) : Except Failure Value := do
  let setting := (settings.get? "csv_field_delimiter").getD (.text ",")
  if isOn settings "csv" then return .text (String.singleton (← delimiterOf setting))
  else return setting

/-- The port. -/
def requestedPort (settings : Fields) : Except Failure Int :=
  let setting := settings.getOrNull "port"
  if setting.isGiven then wholeNumber setting else .ok 6001

/-- The options that settings ask for. -/
def ofSettings (settings : Fields) : Except Failure Options := do
  let length ← requestedLength settings
  let databases ← requestedDatabases settings
  let host ← requestedHost settings
  let delimiter ← requestedDelimiter settings
  let port ← requestedPort settings
  let tables ← names (settings.getOrNull "tables")
  let filter := settings.getOrNull "where"
  return {
    host, port, delimiter
    databases := .list (databases.map .text)
    tables := .list (tables.map .text)
    user := textOr "dump" (settings.getOrNull "user")
    password := match settings.getOrNull "password" with
      | .null => "111"
      | setting => setting.toText
    format := if isOn settings "csv" then .csv else .sql
    omitData := isOn settings "no_data"
    escaping := isOn settings "enable_escape"
    escapeChars := match settings.getOrNull "escape_chars" with
      | .null => .text Csv.defaultEscapeChars
      | setting => setting
    localFile := ((settings.get? "local_infile").getD (.bool true)).isGiven
    filter := if filter.isGiven then filter else .text ""
    sysAccount := isOn settings "sys_account"
    bufferLength := .int (clamp length) }

end DatabaseDump.Options
