import DatabaseDump.Proofs.TableRows

/-!
# What options read of settings

Options are made of fifteen settings, and of nothing else. Each setting is read for itself, with
a rule for what is missing, so a mapping can be replaced by its `Readings`. Three of them are
checked before the delimiter is, and two after it.

Two mappings with the same readings give the same options or the same failure. In the other
direction `Readings.Shows` says what options that came about show of the readings.
-/

namespace DatabaseDump.Options

/-- What is read of settings, one by one. -/
structure Readings where
  length : Except Failure Int
  databases : Except Failure (List String)
  host : Except Failure String
  csv : Bool
  delimiter : Value
  port : Except Failure Int
  tables : Except Failure (List String)
  user : String
  password : String
  omitData : Bool
  escaping : Bool
  escapeChars : Value
  localFile : Bool
  filter : Value
  sysAccount : Bool

/-- The readings of settings. -/
def readings (settings : Fields) : Readings where
  length := requestedLength settings
  databases := requestedDatabases settings
  host := requestedHost settings
  csv := isOn settings "csv"
  delimiter := (settings.get? "csv_field_delimiter").getD (.text ",")
  port := requestedPort settings
  tables := names (settings.getOrNull "tables")
  user := textOr "dump" (settings.getOrNull "user")
  password := match settings.getOrNull "password" with
    | .null => "111"
    | setting => setting.toText
  omitData := isOn settings "no_data"
  escaping := isOn settings "enable_escape"
  escapeChars := match settings.getOrNull "escape_chars" with
    | .null => .text Csv.defaultEscapeChars
    | setting => setting
  localFile := ((settings.get? "local_infile").getD (.bool true)).isGiven
  filter :=
    let filter := settings.getOrNull "where"
    if filter.isGiven then filter else .text ""
  sysAccount := isOn settings "sys_account"

namespace Readings

/-- What is checked before the delimiter. -/
def checkedFirst (r : Readings) : Except Failure (Int × List String × String) := do
  return (← r.length, ← r.databases, ← r.host)

/-- The delimiter, which is checked only when side files are written. -/
def checkedDelimiter (r : Readings) : Except Failure Value := do
  if r.csv then return .text (String.singleton (← delimiterOf r.delimiter))
  else return r.delimiter

theorem checkedDelimiter_of_not_csv {r : Readings} (h : r.csv = false) :
    r.checkedDelimiter = .ok r.delimiter := by
  rw [checkedDelimiter, h]
  rfl

/-- What is checked after the delimiter. -/
def checkedLast (r : Readings) : Except Failure (Int × List String) := do
  return (← r.port, ← r.tables)

/-- The options that are made of what was checked and of the other readings. -/
def assemble (r : Readings) (first : Int × List String × String) (delimiter : Value)
    (last : Int × List String) : Options where
  host := first.2.2
  port := last.1
  user := r.user
  password := r.password
  databases := .list (first.2.1.map .text)
  tables := .list (last.2.map .text)
  format := if r.csv then .csv else .sql
  omitData := r.omitData
  delimiter := delimiter
  escaping := r.escaping
  escapeChars := r.escapeChars
  localFile := r.localFile
  filter := r.filter
  sysAccount := r.sysAccount
  bufferLength := .int (clamp first.1)

/-- The options of readings. -/
def options (r : Readings) : Except Failure Options := do
  let first ← r.checkedFirst
  let delimiter ← r.checkedDelimiter
  let last ← r.checkedLast
  return r.assemble first delimiter last

end Readings

/-- The options that settings ask for are those of their readings. -/
theorem ofSettings_eq (settings : Fields) : ofSettings settings = (readings settings).options := by
  simp only [Readings.options, Readings.checkedFirst, Readings.checkedLast, bind_assoc, pure_bind]
  rfl

theorem warnings_eq (settings : Fields) : warnings settings = match (readings settings).length with
    | .ok length => clampWarnings length
    | .error _ => [] := rfl

/-- What is read depends only on what stands under each name. -/
theorem readings_congr {settings others : Fields}
    (h : ∀ name, settings.get? name = others.get? name) : readings settings = readings others := by
  have hget : settings.get? = others.get? := funext h
  have hnull : settings.getOrNull = others.getOrNull := by
    funext name
    rw [Fields.getOrNull, h, Fields.getOrNull]
  simp only [readings, requestedLength, requestedDatabases, requestedHost, requestedPort, isOn,
    hget, hnull]

namespace Readings

variable {r : Readings} {options : Options}

/-- Options show the readings that they were made of, a budget between its limits. -/
structure Shows (options : Options) (r : Readings) : Prop where
  length : ∃ n, r.length = .ok n ∧ options.bufferLength = .int (clamp n)
  databases : ∃ found, r.databases = .ok found ∧ options.databases = .list (found.map .text)
  host : r.host = .ok options.host
  format : options.format = if r.csv then .csv else .sql
  delimiter : r.checkedDelimiter = .ok options.delimiter
  port : r.port = .ok options.port
  tables : ∃ found, r.tables = .ok found ∧ options.tables = .list (found.map .text)
  user : options.user = r.user
  password : options.password = r.password
  omitData : options.omitData = r.omitData
  escaping : options.escaping = r.escaping
  escapeChars : options.escapeChars = r.escapeChars
  localFile : options.localFile = r.localFile
  filter : options.filter = r.filter
  sysAccount : options.sysAccount = r.sysAccount

theorem shows_of_options_eq_ok (h : r.options = .ok options) : Shows options r := by
  obtain ⟨first, hfirst, h⟩ := exists_of_bind_eq_ok h
  obtain ⟨delimiter, hdelimiter, h⟩ := exists_of_bind_eq_ok h
  obtain ⟨last, hlast, h⟩ := exists_of_bind_eq_ok h
  obtain ⟨length, hlength, hfirst⟩ := exists_of_bind_eq_ok hfirst
  obtain ⟨databases, hdatabases, hfirst⟩ := exists_of_bind_eq_ok hfirst
  obtain ⟨host, hhost, hfirst⟩ := exists_of_bind_eq_ok hfirst
  obtain ⟨port, hport, hlast⟩ := exists_of_bind_eq_ok hlast
  obtain ⟨tables, htables, hlast⟩ := exists_of_bind_eq_ok hlast
  cases hfirst
  cases hlast
  cases h
  exact {
    length := ⟨length, hlength, rfl⟩
    databases := ⟨databases, hdatabases, rfl⟩
    tables := ⟨tables, htables, rfl⟩
    host := hhost
    delimiter := hdelimiter
    port := hport
    format := rfl, user := rfl, password := rfl, omitData := rfl, escaping := rfl
    escapeChars := rfl, localFile := rfl, filter := rfl, sysAccount := rfl }

/-- The format shows whether side files are written. -/
theorem Shows.csv_eq {s : Readings} (h : Shows options r) (h' : Shows options s) :
    r.csv = s.csv := by
  have hformat := h.format.symm.trans h'.format
  revert hformat
  cases r.csv <;> cases s.csv <;> simp

/-- The first check that fails is the failure. -/
theorem options_eq_error_iff {failure : Failure} : r.options = .error failure ↔
    r.checkedFirst = .error failure
    ∨ ∃ first, r.checkedFirst = .ok first
      ∧ (r.checkedDelimiter = .error failure
        ∨ ∃ delimiter, r.checkedDelimiter = .ok delimiter ∧ r.checkedLast = .error failure) := by
  have hlast (first : Int × List String × String) (delimiter : Value) :
      (r.checkedLast >>= fun last => pure (r.assemble first delimiter last)) = .error failure
        ↔ r.checkedLast = .error failure := by
    rw [bind_eq_error_iff, or_iff_left]
    rintro ⟨last, -, h⟩
    cases h
  rw [options, bind_eq_error_iff]
  refine or_congr_right (exists_congr fun first => and_congr_right fun _ => ?_)
  rw [bind_eq_error_iff]
  exact or_congr_right (exists_congr fun delimiter => and_congr_right fun _ =>
    hlast first delimiter)

end Readings

end DatabaseDump.Options
