import DatabaseDump.Proofs.Readings

/-!
# Settings with no value

A configuration may name a setting and give it no value. All settings are read as if their name
was missing then, except for two: side files do not lie with the client any longer, and there is
no delimiter, which is a failure when side files are written.

Both of them have a default that is no failure. So the options differ as soon as there are any,
and without options it is the place of the failure that decides: what is checked before the
delimiter fails alike, and what is checked after it only if the delimiter is not looked at.
-/

namespace DatabaseDump

namespace Fields

/-- The fields with nothing under some names. -/
def cleared (fields : Fields) (names : List String) : Fields :=
  fields.map fun field => if field.1 ∈ names then (field.1, .null) else field

/-- The fields without those under some names. -/
def without (fields : Fields) (names : List String) : Fields :=
  fields.filter fun field => field.1 ∉ names

/-- A field with a name that is to be cleared. -/
def Clears (fields : Fields) (names : List String) (name : String) : Prop :=
  name ∈ names ∧ (get? fields name).isSome = true

variable {fields : Fields} {names : List String} {name : String}

theorem get?_cleared (fields : Fields) (names : List String) (name : String) :
    get? (cleared fields names) name
      = (get? fields name).map fun value => if name ∈ names then .null else value := by
  induction fields with
  | nil => rfl
  | cons field fields ih =>
    have hname : (if field.1 ∈ names then (field.1, .null) else field).1 = field.1 := by
      split <;> rfl
    rw [cleared, List.map_cons, get?_cons, get?_cons, hname]
    by_cases h : field.1 = name
    · rw [if_pos (beq_iff_eq.mpr h), if_pos (beq_iff_eq.mpr h), ← h]
      split <;> rfl
    · rw [if_neg (mt beq_iff_eq.mp h), if_neg (mt beq_iff_eq.mp h)]
      exact ih

theorem get?_without (fields : Fields) (names : List String) (name : String) :
    get? (without fields names) name = if name ∈ names then none else get? fields name := by
  induction fields with
  | nil => exact (ite_self _).symm
  | cons field fields ih =>
    by_cases hfield : field.1 ∈ names
    · rw [without, List.filter_cons_of_neg (by simpa using hfield), get?_cons]
      refine ih.trans ?_
      by_cases h : field.1 = name
      · rw [if_pos (h ▸ hfield), if_pos (h ▸ hfield)]
      · rw [if_neg (mt beq_iff_eq.mp h)]
    · rw [without, List.filter_cons_of_pos (by simpa using hfield), get?_cons, get?_cons]
      by_cases h : field.1 = name
      · rw [if_pos (beq_iff_eq.mpr h), if_pos (beq_iff_eq.mpr h), if_neg (h ▸ hfield)]
      · rw [if_neg (mt beq_iff_eq.mp h), if_neg (mt beq_iff_eq.mp h)]
        exact ih

/-- Where a missing value and an explicit nothing are taken alike, it is all the same. -/
theorem getOrNull_cleared (fields : Fields) (names : List String) :
    getOrNull (cleared fields names) = getOrNull (without fields names) := by
  funext name
  rw [getOrNull, getOrNull, get?_cleared, get?_without]
  by_cases h : name ∈ names
  · rw [if_pos h]
    cases get? fields name with
    | none => rfl
    | some value => exact congrArg (Option.getD · .null) (congrArg some (if_pos h))
  · simp only [if_neg h, Option.map_id']

theorem get?_cleared_of_clears (h : Clears fields names name) :
    get? (cleared fields names) name = some .null ∧ get? (without fields names) name = none := by
  obtain ⟨hmem, hsome⟩ := h
  obtain ⟨value, hvalue⟩ := Option.isSome_iff_exists.mp hsome
  rw [get?_cleared, get?_without, hvalue, if_pos hmem]
  exact ⟨by simp [hmem], rfl⟩

theorem get?_cleared_of_not_clears (h : ¬Clears fields names name) :
    get? (cleared fields names) name = get? (without fields names) name := by
  rw [get?_cleared, get?_without]
  by_cases hmem : name ∈ names
  · have hnone : get? fields name = none := by
      simpa using fun hsome => h ⟨hmem, hsome⟩
    rw [hnone, if_pos hmem, Option.map_none]
  · rw [if_neg hmem]
    simp [hmem]

end Fields

namespace Options

open Fields

variable {settings : Fields} {names : List String}

/-! ## Two readings that may differ -/

namespace Readings

variable {r : Readings} {setting : Value} {localFile : Bool} {options : Options}

/-- A delimiter that is not looked at changes nothing about a failure. -/
theorem options_eq_error_of_delimiter (h : r.csv = false ∨ setting = r.delimiter)
    {failure : Failure} (hfailure : r.options = .error failure) :
    { r with delimiter := setting, localFile := localFile }.options = .error failure := by
  refine options_eq_error_iff.mpr ((options_eq_error_iff.mp hfailure).imp_right ?_)
  rintro ⟨first, hfirst, hrest⟩
  refine ⟨first, hfirst, ?_⟩
  rcases h with hcsv | rfl
  · rcases hrest with hdelimiter | ⟨-, -, hlast⟩
    · cases (checkedDelimiter_of_not_csv hcsv).symm.trans hdelimiter
    · exact .inr ⟨setting, checkedDelimiter_of_not_csv hcsv, hlast⟩
  · exact hrest

/-- Without a delimiter, side files cannot be written. -/
theorem checkedDelimiter_of_null (hcsv : r.csv = true) :
    { r with delimiter := .null, localFile := localFile }.checkedDelimiter
      = .error .emptyDelimiter := by
  rw [checkedDelimiter, hcsv]
  rfl

end Readings

theorem readings_cleared (settings : Fields) (names : List String) :
    readings (settings.cleared names) = { readings (settings.without names) with
      delimiter := ((settings.cleared names).get? "csv_field_delimiter").getD (.text ",")
      localFile :=
        (((settings.cleared names).get? "local_infile").getD (.bool true)).isGiven } := by
  simp only [readings, requestedLength, requestedDatabases, requestedHost, requestedPort, isOn,
    getOrNull_cleared]

/-- Where the delimiter is cleared there is none, and otherwise there would be the usual one. -/
theorem readings_cleared_of_clears (h : settings.Clears names "csv_field_delimiter") :
    readings (settings.cleared names) = { readings (settings.without names) with
      delimiter := .null
      localFile :=
        (((settings.cleared names).get? "local_infile").getD (.bool true)).isGiven } := by
  rw [readings_cleared, (get?_cleared_of_clears h).1]
  rfl

theorem delimiter_without_of_clears (h : settings.Clears names "csv_field_delimiter") :
    (readings (settings.without names)).delimiter = .text "," := by
  rw [readings, (get?_cleared_of_clears h).2]
  rfl

theorem checkedDelimiter_without_of_clears (h : settings.Clears names "csv_field_delimiter")
    (hcsv : (readings (settings.without names)).csv = true) :
    (readings (settings.without names)).checkedDelimiter = .ok (.text ",") := by
  rw [Readings.checkedDelimiter, hcsv, delimiter_without_of_clears h]
  rfl

theorem requestedPort_ne_emptyDelimiter (settings : Fields) :
    requestedPort settings ≠ .error .emptyDelimiter := by
  simp only [requestedPort]
  split
  · cases settings.getOrNull "port" with
    | float x =>
      simp only [wholeNumber]
      split
      · simp
      · split <;> simp
    | text s =>
      simp only [wholeNumber]
      split <;> simp
    | null | bool | int | list | object => simp [wholeNumber]
  · simp

theorem names_ne_emptyDelimiter (setting : Value) :
    Options.names setting ≠ .error .emptyDelimiter := by
  cases setting <;> simp [Options.names, listed, Value.items, Functor.map, Except.map]

/-- The port and the tables fail for other reasons than a missing delimiter. -/
theorem checkedLast_ne_emptyDelimiter (settings : Fields) :
    (readings settings).checkedLast ≠ .error .emptyDelimiter := by
  intro h
  rcases bind_eq_error_iff.mp h with hport | ⟨port, -, h⟩
  · exact requestedPort_ne_emptyDelimiter settings hport
  · rcases bind_eq_error_iff.mp h with htables | ⟨tables, -, h⟩
    · exact names_ne_emptyDelimiter _ htables
    · cases h

/-! ## Where the difference shows -/

/-- What the same options show cannot be read in both ways. -/
theorem not_clears_of_options_eq_ok {options : Options}
    (hwithout : (readings (settings.without names)).options = .ok options)
    (hcleared : (readings (settings.cleared names)).options = .ok options) :
    ¬settings.Clears names "csv_field_delimiter" ∧ ¬settings.Clears names "local_infile" := by
  have hshows := Readings.shows_of_options_eq_ok hwithout
  have hshows' := Readings.shows_of_options_eq_ok hcleared
  refine ⟨fun hdelimiter => ?_, fun hlocal => ?_⟩
  · rw [readings_cleared_of_clears hdelimiter] at hshows'
    cases hcsv : (readings (settings.without names)).csv with
    | true => cases (Readings.checkedDelimiter_of_null hcsv).symm.trans hshows'.delimiter
    | false =>
      have hnone : Except.ok .null = .ok options.delimiter :=
        (Readings.checkedDelimiter_of_not_csv (by exact hcsv)).symm.trans hshows'.delimiter
      have hcomma := (Readings.checkedDelimiter_of_not_csv hcsv).symm.trans hshows.delimiter
      rw [delimiter_without_of_clears hdelimiter, ← hnone] at hcomma
      cases hcomma
  · have hlost := hshows'.localFile.symm.trans hshows.localFile
    simp [readings, get?_cleared_of_clears hlocal, Value.isGiven] at hlost

/-- Where a delimiter is needed, the same failure comes from what is checked before it. -/
theorem checkedFirst_eq_error_of_clears {failure : Failure}
    (hdelimiter : settings.Clears names "csv_field_delimiter")
    (hcsv : (readings (settings.without names)).csv = true)
    (hwithout : (readings (settings.without names)).options = .error failure)
    (hcleared : (readings (settings.cleared names)).options = .error failure) :
    (readings (settings.without names)).checkedFirst = .error failure := by
  rw [readings_cleared_of_clears hdelimiter, Readings.options_eq_error_iff] at hcleared
  rcases hcleared with hfirst | ⟨first, hfirst, hrest⟩
  · exact hfirst
  rw [Readings.checkedDelimiter_of_null hcsv] at hrest
  rcases hrest with hempty | ⟨delimiter, hempty, -⟩
  · cases hempty
    -- without the names, a missing delimiter would have to be noticed after it was checked
    rcases Readings.options_eq_error_iff.mp hwithout with h | ⟨-, -, h | ⟨-, -, hlast⟩⟩
    · cases h.symm.trans hfirst
    · cases (checkedDelimiter_without_of_clears hdelimiter hcsv).symm.trans h
    · exact absurd hlast (checkedLast_ne_emptyDelimiter _)
  · cases hempty

/-- A failure that is found before a delimiter is needed stays the same. -/
theorem options_cleared_eq_error {failure : Failure}
    (hwithout : (readings (settings.without names)).options = .error failure)
    (hfirst : settings.Clears names "csv_field_delimiter" →
      (readings (settings.without names)).csv = true →
      (readings (settings.without names)).checkedFirst = .error failure) :
    (readings (settings.cleared names)).options = .error failure := by
  by_cases hdelimiter : settings.Clears names "csv_field_delimiter"
  · rw [readings_cleared_of_clears hdelimiter]
    cases hcsv : (readings (settings.without names)).csv with
    | true => exact Readings.options_eq_error_iff.mpr (.inl (hfirst hdelimiter hcsv))
    | false => exact Readings.options_eq_error_of_delimiter (.inl hcsv) hwithout
  · rw [readings_cleared, get?_cleared_of_not_clears hdelimiter]
    exact Readings.options_eq_error_of_delimiter (.inr rfl) hwithout

/--
**A setting with no value counts as unset, the delimiter and the place of side files apart.**

With nothing under some names, settings give the same warnings as without those names. They give
the same options or the same failure exactly when neither of the two settings is cleared, or when
both fail before it matters: for a delimiter that is needed, before it is checked, and otherwise
anywhere.
-/
theorem cleared_settings_read_alike_iff (settings : Fields) (names : List String) :
    warnings (settings.cleared names) = warnings (settings.without names)
    ∧ (ofSettings (settings.cleared names) = ofSettings (settings.without names) ↔
      ¬settings.Clears names "csv_field_delimiter" ∧ ¬settings.Clears names "local_infile"
      ∨ ∃ failure, ofSettings (settings.without names) = .error failure
        ∧ (settings.Clears names "csv_field_delimiter" →
          isOn (settings.without names) "csv" = true →
          (readings (settings.without names)).checkedFirst = .error failure)) := by
  have hreadings := readings_cleared settings names
  refine ⟨by rw [warnings_eq, warnings_eq, hreadings], ?_⟩
  rw [ofSettings_eq, ofSettings_eq]
  constructor
  · intro heq
    cases hwithout : (readings (settings.without names)).options with
    | ok options => exact .inl (not_clears_of_options_eq_ok hwithout (heq.trans hwithout))
    | error failure =>
      exact .inr ⟨failure, rfl, fun hdelimiter hcsv =>
        checkedFirst_eq_error_of_clears hdelimiter hcsv hwithout (heq.trans hwithout)⟩
  · rintro (⟨hdelimiter, hlocal⟩ | ⟨failure, hwithout, hfirst⟩)
    · rw [hreadings, get?_cleared_of_not_clears hdelimiter, get?_cleared_of_not_clears hlocal]
      rfl
    · rw [hwithout]
      exact options_cleared_eq_error hwithout hfirst

/-- Side files lie with the client unless something else is set, but not when nothing is set. -/
theorem cleared_local_infile_is_off :
    let settings : Fields := [("database", .text "shop"), ("local_infile", .bool true)]
    ofSettings (settings.cleared ["local_infile"])
      ≠ ofSettings (settings.without ["local_infile"]) := by
  intro settings h
  have hoff : (ofSettings (settings.cleared ["local_infile"])).map localFile = .ok false := by
    decide +kernel
  have hon : (ofSettings (settings.without ["local_infile"])).map localFile = .ok true := by
    decide +kernel
  rw [h, hon] at hoff
  cases hoff

end Options

end DatabaseDump
