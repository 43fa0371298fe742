import DatabaseDump.Proofs.GivenSettings
import DatabaseDump.Proofs.Readings

/-!
# Texts of settings

A setting that has a flag can be given as a text in two places: on the command line, where the
flag turns it into a value first, and in the configuration, where it stays a text until options
are made of it.

Both places mean the same by a text exactly if it is plain. A switch that is to be off, a port of
zero and a lone pair of dashes are not: a configuration takes any word for on, a zero that is
written down for a port, and the dashes for a text like others. What a flag makes of its text is
one of six cases (`Assignment.Reads`), and in each of them either the readings agree or no options
show both of them.
-/

namespace DatabaseDump

namespace Options

open Fields (get?_set)

/-! ## Settings by the way they are read -/

/-- The settings that are looked at only for whether they are given. -/
def switches : List String := ["csv", "local_infile", "no_data", "enable_escape", "sys_account"]

/-- Two values that are given, or that are not, switch alike. -/
theorem readings_set_switch {name : String} (h : name ∈ switches) {value other : Value}
    (hgiven : value.isGiven = other.isGiven) (settings : Fields) :
    readings (settings.set name value) = readings (settings.set name other) := by
  simp only [switches, List.mem_cons, List.not_mem_nil, or_false] at h
  rcases h with rfl | rfl | rfl | rfl | rfl <;>
    simp [readings, requestedLength, requestedDatabases, requestedHost, requestedPort, isOn,
      Fields.getOrNull, get?_set, hgiven]

/-- Options show whether a switch is on. -/
theorem isGiven_eq_of_shows {name : String} (h : name ∈ switches) {value other : Value}
    {settings : Fields} {options : Options}
    (hvalue : Readings.Shows options (readings (settings.set name value)))
    (hother : Readings.Shows options (readings (settings.set name other))) :
    value.isGiven = other.isGiven := by
  have hcsv := hvalue.csv_eq hother
  have homitData := hvalue.omitData.symm.trans hother.omitData
  have hescaping := hvalue.escaping.symm.trans hother.escaping
  have hlocalFile := hvalue.localFile.symm.trans hother.localFile
  have hsysAccount := hvalue.sysAccount.symm.trans hother.sysAccount
  simp only [readings, isOn, Fields.getOrNull, get?_set]
    at hcsv homitData hescaping hlocalFile hsysAccount
  simp only [switches, List.mem_cons, List.not_mem_nil, or_false] at h
  rcases h with rfl | rfl | rfl | rfl | rfl
  · simpa using hcsv
  · simpa using hlocalFile
  · simpa using homitData
  · simpa using hescaping
  · simpa using hsysAccount

/-- The port is a number, and none that is given is the usual one. -/
theorem port_set (settings : Fields) (value : Value) :
    (readings (settings.set "port" value)).port
      = if value.isGiven then wholeNumber value else .ok 6001 := by
  simp [readings, requestedPort, Fields.getOrNull, get?_set]

theorem readings_set_port {value other : Value} (hgiven : value.isGiven = other.isGiven)
    (hnumber : wholeNumber value = wholeNumber other) (settings : Fields) :
    readings (settings.set "port" value) = readings (settings.set "port" other) := by
  simp [readings, requestedLength, requestedDatabases, requestedHost, requestedPort, isOn,
    Fields.getOrNull, get?_set, hgiven, hnumber]

theorem length_set (settings : Fields) {value : Value} (h : value ≠ .null) :
    (readings (settings.set "net_buffer_length" value)).length = wholeNumber value := by
  cases value <;> simp_all [readings, requestedLength, Fields.getOrNull, get?_set]

theorem readings_set_length {value other : Value} (hvalue : value ≠ .null) (hother : other ≠ .null)
    (hnumber : wholeNumber value = wholeNumber other) (settings : Fields) :
    readings (settings.set "net_buffer_length" value)
      = readings (settings.set "net_buffer_length" other) := by
  have hlength := (length_set settings hvalue).trans
    (hnumber.trans (length_set settings hother).symm)
  simp only [readings] at hlength
  simp [readings, requestedDatabases, requestedHost, requestedPort, isOn, Fields.getOrNull,
    get?_set, hlength]

/-- The settings that hold texts. -/
def textual : List String :=
  ["user", "password", "host", "database", "tables", "csv_field_delimiter", "where"]

/-- Options show whether a text is a pair of dashes or nothing at all. -/
theorem not_shows_dashes_and_nothing {name : String} (h : name ∈ textual) {settings : Fields}
    {options : Options}
    (hdashes : Readings.Shows options (readings (settings.set name (.text "--"))))
    (hnothing : Readings.Shows options (readings (settings.set name (.list [])))) : False := by
  have hget (value : Value) : (settings.set name value).getOrNull name = value := by
    simp [Fields.getOrNull, get?_set]
  simp only [textual, List.mem_cons, List.not_mem_nil, or_false] at h
  rcases h with rfl | rfl | rfl | rfl | rfl | rfl | rfl
  · have huser := hdashes.user.symm.trans hnothing.user
    simp only [readings, hget] at huser
    revert huser
    decide +kernel
  · have hpassword := hdashes.password.symm.trans hnothing.password
    simp only [readings, hget] at hpassword
    revert hpassword
    decide +kernel
  · have hhost := hdashes.host.trans hnothing.host.symm
    simp only [readings, requestedHost, hget] at hhost
    revert hhost
    decide +kernel
  · obtain ⟨found, hfound, -⟩ := hnothing.databases
    simp only [readings, requestedDatabases, hget] at hfound
    cases hfound
  · obtain ⟨found, hfound, htables⟩ := hdashes.tables
    obtain ⟨none, hnone, hempty⟩ := hnothing.tables
    simp only [readings, hget] at hfound hnone
    have hfound' : names (.text "--") = .ok ["--"] := by decide +kernel
    cases hfound'.symm.trans hfound
    cases hnone
    cases htables.symm.trans hempty
  · have hdelimiter (value : Value) :
        (readings (settings.set "csv_field_delimiter" value)).delimiter = value := by
      simp [readings, get?_set]
    cases hcsv : (readings (settings.set "csv_field_delimiter" (.list []))).csv with
    | true =>
      have hchecked := hnothing.delimiter
      rw [Readings.checkedDelimiter, hcsv, hdelimiter] at hchecked
      cases hchecked
    | false =>
      have hvalue := (Readings.checkedDelimiter_of_not_csv hcsv).symm.trans hnothing.delimiter
      have htext := (Readings.checkedDelimiter_of_not_csv
        ((hdashes.csv_eq hnothing).trans hcsv)).symm.trans hdashes.delimiter
      rw [hdelimiter] at hvalue htext
      cases htext.trans hvalue.symm
  · have hfilter := hdashes.filter.symm.trans hnothing.filter
    simp only [readings, hget] at hfilter
    revert hfilter
    decide +kernel

end Options

/-! ## One text in two places -/

namespace CommandLine

open Options

variable {a : Assignment} {value : Value}

/-- A text that its flag takes. -/
def Assignment.IsAccepted (a : Assignment) : Prop :=
  a.flag ∈ overridingFlags ∧ ∃ value, readValue a.flag (some a.text) = .ok value

/--
A text that means what it says: no word for switching off, no port of zero and no lone pair of
dashes, unless it is to switch something on.
-/
structure Assignment.IsPlain (a : Assignment) : Prop where
  switch : a.flag.kind = .boolean → readBoolean a.text ≠ .ok false
  port : a.flag.setting = "port" → Text.readInteger a.text ≠ .ok 0
  dashes : a.text = "--" → a.flag.kind = .boolean

/-- The settings that hold numbers. -/
def numeric : List String := ["port", "net_buffer_length"]

/-- What a flag makes of its text, and whether that is what the text says. -/
inductive Assignment.Reads (a : Assignment) : Value → Prop
  | on (hsetting : a.flag.setting ∈ switches) (htext : a.text ≠ "") (hplain : a.IsPlain) :
      Reads a (.bool true)
  | off (hsetting : a.flag.setting ∈ switches) (htext : a.text ≠ "") (hplain : ¬a.IsPlain) :
      Reads a (.bool false)
  | text (hplain : a.IsPlain) : Reads a (.text a.text)
  | number {n : Int} (hsetting : a.flag.setting ∈ numeric) (htext : a.text ≠ "")
      (hread : Text.readInteger a.text = .ok n)
      (hplain : a.IsPlain ↔ (a.flag.setting = "port" → n ≠ 0)) : Reads a (.int n)
  | noText (hsetting : a.flag.setting ∈ textual) (htext : a.text = "--") (hplain : ¬a.IsPlain) :
      Reads a (.list [])
  | noNumber (hsetting : a.flag.setting ∈ numeric) (htext : a.text = "--") (hplain : ¬a.IsPlain) :
      Reads a (.list [])

theorem kind_cases : ∀ flag ∈ overridingFlags,
    flag.kind = .boolean ∧ flag.setting ∈ switches
    ∨ flag.kind = .text ∧ flag.setting ∈ textual
    ∨ flag.kind = .integer ∧ flag.setting ∈ numeric := by
  decide +kernel

theorem effective_of_ne {text : String} (h : text ≠ "--") : effective (some text) = some text := by
  simp [effective, h]

/-- A lone pair of dashes is plain only behind a flag that can do without a value. -/
theorem not_isPlain_of_dashes (htext : a.text = "--") (hkind : a.flag.kind ≠ .boolean) :
    ¬a.IsPlain :=
  fun hplain => hkind (hplain.dashes htext)

theorem reads_boolean (hkind : a.flag.kind = .boolean) (hsetting : a.flag.setting ∈ switches)
    (hvalue : readValue a.flag (some a.text) = .ok value) : a.Reads value := by
  have hport : a.flag.setting ≠ "port" := fun heq => absurd (heq ▸ hsetting) (by decide)
  have hplain (h : readBoolean a.text ≠ .ok false) : a.IsPlain :=
    ⟨fun _ => h, fun heq => absurd heq hport, fun _ => hkind⟩
  unfold readValue at hvalue
  rw [hkind] at hvalue
  by_cases htext : a.text = "--"
  · rw [htext] at hvalue
    cases hvalue
    exact .on hsetting (by simp [htext]) (hplain (by rw [htext]; decide +kernel))
  rw [effective_of_ne htext] at hvalue
  have hsome : a.text ≠ "" := by
    intro hempty
    rw [hempty] at hvalue
    cases hvalue
  cases hread : readBoolean a.text with
  | error failure => simp [hread] at hvalue
  | ok b =>
    simp only [hread] at hvalue
    cases hvalue
    cases b with
    | true => exact .on hsetting hsome (hplain (by simp [hread]))
    | false => exact .off hsetting hsome fun hplain => hplain.switch hkind hread

theorem reads_integer (hkind : a.flag.kind = .integer) (hsetting : a.flag.setting ∈ numeric)
    (hvalue : readValue a.flag (some a.text) = .ok value) : a.Reads value := by
  unfold readValue at hvalue
  rw [hkind] at hvalue
  by_cases htext : a.text = "--"
  · rw [htext] at hvalue
    cases hvalue
    exact .noNumber hsetting htext (not_isPlain_of_dashes htext (by simp [hkind]))
  rw [effective_of_ne htext] at hvalue
  have hsome : a.text ≠ "" := by
    intro hempty
    rw [hempty] at hvalue
    cases hvalue
  cases hread : Text.readInteger a.text with
  | error fault => simp [hread] at hvalue
  | ok n =>
    simp only [hread] at hvalue
    cases hvalue
    refine .number hsetting hsome hread ⟨fun hplain hport hzero => ?_, fun hport => ?_⟩
    · exact hplain.port hport (hzero ▸ hread)
    · exact ⟨by simp [hkind], fun heq hzero => hport heq (Except.ok.inj (hread.symm.trans hzero)),
        fun heq => absurd heq htext⟩

theorem reads_textual (hkind : a.flag.kind = .text) (hsetting : a.flag.setting ∈ textual)
    (hvalue : readValue a.flag (some a.text) = .ok value) : a.Reads value := by
  have hport : a.flag.setting ≠ "port" := fun heq => absurd (heq ▸ hsetting) (by decide)
  unfold readValue at hvalue
  rw [hkind] at hvalue
  by_cases htext : a.text = "--"
  · rw [htext] at hvalue
    cases hvalue
    exact .noText hsetting htext (not_isPlain_of_dashes htext (by simp [hkind]))
  · rw [effective_of_ne htext] at hvalue
    cases hvalue
    exact .text ⟨by simp [hkind], fun heq => absurd heq hport, fun heq => absurd heq htext⟩

/-- A flag that takes a text makes of it what one of the six cases says. -/
theorem reads_of_readValue (hflag : a.flag ∈ overridingFlags)
    (hvalue : readValue a.flag (some a.text) = .ok value) : a.Reads value := by
  rcases kind_cases a.flag hflag with ⟨hkind, hsetting⟩ | ⟨hkind, hsetting⟩ | ⟨hkind, hsetting⟩
  · exact reads_boolean hkind hsetting hvalue
  · exact reads_textual hkind hsetting hvalue
  · exact reads_integer hkind hsetting hvalue

theorem wholeNumber_text {text : String} {n : Int} (h : Text.readInteger text = .ok n) :
    wholeNumber (.text text) = .ok n := by
  simp [wholeNumber, h]

/-- **What is plain is read alike.** -/
theorem readings_eq_of_isPlain (h : a.Reads value) (hplain : a.IsPlain) (settings : Fields) :
    readings (settings.set a.flag.setting (.text a.text))
      = readings (settings.set a.flag.setting value) := by
  cases h with
  | on hsetting htext =>
    exact readings_set_switch hsetting (by simp [Value.isGiven, htext]) settings
  | off _ _ hodd => exact absurd hplain hodd
  | text => rfl
  | @number n hsetting htext hread hport =>
    have hnumber : wholeNumber (.text a.text) = wholeNumber (.int n) := wholeNumber_text hread
    simp only [numeric, List.mem_cons, List.not_mem_nil, or_false] at hsetting
    rcases hsetting with hname | hname
    · rw [hname]
      have hempty : a.text.isEmpty = false := by simpa using htext
      refine readings_set_port ?_ hnumber settings
      simp [Value.isGiven, hempty, hport.mp hplain hname]
    · rw [hname]
      exact readings_set_length (by simp) (by simp) hnumber settings
  | noText _ _ hodd => exact absurd hplain hodd
  | noNumber _ _ hodd => exact absurd hplain hodd

/-- **Options that come about in both ways show that the text is plain.** -/
theorem isPlain_of_shows (h : a.Reads value) {settings : Fields} {options : Options}
    (htext : Readings.Shows options (readings (settings.set a.flag.setting (.text a.text))))
    (hvalue : Readings.Shows options (readings (settings.set a.flag.setting value))) :
    a.IsPlain := by
  cases h with
  | on _ _ hplain => exact hplain
  | off hsetting hsome =>
    have hgiven := isGiven_eq_of_shows hsetting htext hvalue
    simp [Value.isGiven, hsome] at hgiven
  | text hplain => exact hplain
  | @number n hsetting hsome hread hplain =>
    refine hplain.mpr fun hname hzero => ?_
    rw [hname] at htext hvalue
    have hport := (port_set settings _).symm.trans (htext.port.trans hvalue.port.symm)
    rw [port_set, wholeNumber_text hread, hzero] at hport
    simp [Value.isGiven, hsome] at hport
  | noText hsetting hdashes =>
    rw [hdashes] at htext
    exact (not_shows_dashes_and_nothing hsetting htext hvalue).elim
  | noNumber hsetting hdashes =>
    -- a pair of dashes in the configuration is no number
    have hfails : wholeNumber (.text "--") = .error (.numeral (.malformed "--")) := by
      decide +kernel
    rw [hdashes] at htext
    simp only [numeric, List.mem_cons, List.not_mem_nil, or_false] at hsetting
    rcases hsetting with hname | hname
    · rw [hname] at htext
      have hport := (port_set settings _).symm.trans htext.port
      rw [hfails] at hport
      cases hport
    · rw [hname] at htext
      obtain ⟨n, hlength, -⟩ := htext.length
      rw [length_set settings (by simp), hfails] at hlength
      cases hlength

/-! ## Among all other settings -/

/-- The value that a flag takes its text for, nothing for a text that it does not take. -/
def Assignment.taken (a : Assignment) : Value :=
  match readValue a.flag (some a.text) with
  | .ok value => value
  | .error _ => .null

theorem Assignment.IsAccepted.readValue_eq (h : a.IsAccepted) :
    readValue a.flag (some a.text) = .ok a.taken := by
  obtain ⟨-, value, hvalue⟩ := h
  rw [taken, hvalue]

/-- The warnings about settings and the options that they come to. -/
def outcome (settings : Fields) : List Log.Record × Except Failure Options :=
  (warnings settings, ofSettings settings)

theorem outcome_congr {settings others : Fields} (h : readings settings = readings others) :
    outcome settings = outcome others := by
  rw [outcome, outcome, warnings_eq, warnings_eq, ofSettings_eq, ofSettings_eq, h]

/-- What a configuration and arguments come to, if they can be read. -/
def outcomeOf (config : Value) (arguments : List String) :
    Option (List Log.Record × Except Failure Options) :=
  match read arguments, Config.settings config with
  | .arguments given, .ok settings => some (outcome (override settings given))
  | _, _ => none

/-- All settings but one: a configuration, and arguments in front and behind. -/
structure Others (a : Assignment) where
  sections : Fields
  connection : Fields
  dump : Fields
  before : List Assignment
  after : List Assignment
  hasConnection : Config.HasSection sections "connection" connection
  hasDump : Config.HasSection sections "dump" dump
  areAccepted : ∀ other ∈ before ++ after, other.IsAccepted ∧ other.flag ≠ a.flag

namespace Others

variable (others : Others a)

/-- What all comes to with the text in the dump section. -/
def configured : Option (List Log.Record × Except Failure Options) :=
  outcomeOf
    (.object (others.sections.set "dump"
      (.object (others.dump.set a.flag.setting (.text a.text)))))
    ((others.before ++ others.after).map Assignment.argument)

/-- What all comes to with the text on the command line. -/
def commanded : Option (List Log.Record × Except Failure Options) :=
  outcomeOf (.object others.sections)
    ((others.before ++ a :: others.after).map Assignment.argument)

/-- What is given on the command line but for the one setting. -/
def given : Fields :=
  Fields.merge [] ((others.before ++ others.after).map (Assignment.field Assignment.taken))

/-- The settings without the one. -/
def settings : Fields := override (others.connection.merge others.dump) others.given

variable {others}

/-- Two flags never share a setting. -/
theorem flag_eq_of_setting_eq : ∀ first ∈ overridingFlags, ∀ second ∈ overridingFlags,
    first.setting = second.setting → first = second := by
  decide +kernel

theorem setting_ne {other : Assignment} (h : a.IsAccepted)
    (hother : other ∈ others.before ++ others.after) : other.flag.setting ≠ a.flag.setting :=
  fun heq => (others.areAccepted other hother).2
    (flag_eq_of_setting_eq _ (others.areAccepted other hother).1.1 _ h.1 heq)

/-- Assignments to other settings give this one no value. -/
theorem get?_fields_eq_none {assignments : List Assignment} {name : String}
    (h : ∀ other ∈ assignments, other.flag.setting ≠ name) :
    Fields.get? (assignments.map (Assignment.field Assignment.taken)).reverse name = none := by
  refine Fields.get?_eq_none_of_not_mem fun hmem => ?_
  rw [List.map_reverse, List.mem_reverse, List.map_map] at hmem
  obtain ⟨other, hother, heq⟩ := List.mem_map.mp hmem
  exact h other hother heq

theorem get?_given (name : String) :
    others.given.get? name = Fields.get?
      ((others.before ++ others.after).map (Assignment.field Assignment.taken)).reverse name := by
  rw [given, Fields.get?_merge]
  exact Option.or_none

theorem get?_given_self (h : a.IsAccepted) : others.given.get? a.flag.setting = none := by
  rw [get?_given]
  exact get?_fields_eq_none fun other hother => setting_ne h hother

/-- One more assignment, wherever it stands among those to other settings. -/
theorem get?_merge_insert (h : a.IsAccepted) (name : String) :
    (Fields.merge [] ((others.before ++ a :: others.after).map
        (Assignment.field Assignment.taken))).get? name
      = if a.flag.setting = name then some a.taken else others.given.get? name := by
  have hafter : ∀ other ∈ others.after, other.flag.setting ≠ a.flag.setting := fun other hother =>
    setting_ne h (List.mem_append_right _ hother)
  rw [get?_given, Fields.get?_merge]
  simp only [List.map_append, List.map_cons, List.reverse_append, List.reverse_cons,
    Fields.get?_append, Fields.get?_cons, Assignment.field, beq_iff_eq]
  by_cases hname : a.flag.setting = name
  · rw [← hname, get?_fields_eq_none hafter]
    simp
  · simp [hname, show Fields.get? [] name = none from rfl]

theorem read_others (others : Others a) :
    read ((others.before ++ others.after).map Assignment.argument) = .arguments others.given :=
  read_assignments fun other hother =>
    ⟨(others.areAccepted other hother).1.1, (others.areAccepted other hother).1.readValue_eq⟩

theorem read_all (h : a.IsAccepted) :
    read ((others.before ++ a :: others.after).map Assignment.argument)
      = .arguments (Fields.merge []
          ((others.before ++ a :: others.after).map (Assignment.field Assignment.taken))) := by
  refine read_assignments fun other hother => ?_
  rw [List.mem_append, List.mem_cons, or_left_comm, ← List.mem_append] at hother
  obtain rfl | hother := hother
  · exact ⟨h.1, h.readValue_eq⟩
  · exact ⟨(others.areAccepted other hother).1.1, (others.areAccepted other hother).1.readValue_eq⟩

theorem configured_eq (h : a.IsAccepted) :
    others.configured = some (outcome (others.settings.set a.flag.setting (.text a.text))) := by
  let dump := others.dump.set a.flag.setting (.text a.text)
  have hdistinct : dump.IsDistinct := others.hasDump.isDistinct.set _ _
  have hconnection : Config.HasSection (others.sections.set "dump" (.object dump)) "connection"
      others.connection := others.hasConnection.set_of_ne (by decide) _
  have hdump : Config.HasSection (others.sections.set "dump" (.object dump)) "dump" dump :=
    .mapping (Fields.get?_set_self _ _ _) hdistinct
  rw [configured, outcomeOf, read_others, Config.settings_eq_merge hconnection hdump]
  refine congrArg some (outcome_congr (readings_congr fun name => ?_))
  rw [settings, Fields.get?_set, get?_override, get?_override, Fields.get?_merge,
    Fields.get?_merge, hdistinct.get?_reverse, others.hasDump.isDistinct.get?_reverse,
    Fields.get?_set]
  by_cases hname : a.flag.setting = name
  · rw [← hname, if_pos (setting_mem_overriding h.1), get?_given_self h]
    simp
  · simp [hname]

theorem commanded_eq (h : a.IsAccepted) :
    others.commanded = some (outcome (others.settings.set a.flag.setting a.taken)) := by
  rw [commanded, outcomeOf, read_all h,
    Config.settings_eq_merge others.hasConnection others.hasDump]
  refine congrArg some (outcome_congr (readings_congr fun name => ?_))
  rw [settings, Fields.get?_set, get?_override, get?_override, get?_merge_insert h]
  by_cases hname : a.flag.setting = name
  · rw [← hname, if_pos (setting_mem_overriding h.1)]
    simp
  · simp [hname]

end Others

/-- Options that come of both texts show that the text is plain. -/
theorem isPlain_of_ofSettings (h : a.Reads value) {settings : Fields} {options : Options}
    (htext : ofSettings (settings.set a.flag.setting (.text a.text)) = .ok options)
    (hvalue : ofSettings (settings.set a.flag.setting value) = .ok options) : a.IsPlain := by
  rw [ofSettings_eq] at htext hvalue
  exact isPlain_of_shows h (Readings.shows_of_options_eq_ok htext)
    (Readings.shows_of_options_eq_ok hvalue)

/-- Where both texts come to the same, it is enough that one of them comes to options. -/
theorem isPlain_of_isOk (h : a.Reads value) {settings : Fields}
    (heq : ofSettings (settings.set a.flag.setting (.text a.text))
      = ofSettings (settings.set a.flag.setting value))
    (hok : (ofSettings (settings.set a.flag.setting (.text a.text))).isOk = true
      ∨ (ofSettings (settings.set a.flag.setting value)).isOk = true) : a.IsPlain := by
  rw [heq, or_self] at hok
  cases hvalue : ofSettings (settings.set a.flag.setting value) with
  | error failure => simp [hvalue, Except.isOk, Except.toBool] at hok
  | ok options => exact isPlain_of_ofSettings h (heq.trans hvalue) hvalue

/-- A database and nothing else. -/
def oneDatabase : Fields := [("database", .text "d")]

/-- Nothing is given but a database. -/
def Others.least (a : Assignment) : Others a where
  sections := [("dump", .object oneDatabase)]
  connection := []
  dump := oneDatabase
  before := []
  after := []
  hasConnection := .missing rfl
  hasDump := .mapping rfl (by decide)
  areAccepted := by simp

/-- A setting that is switched off does not keep options from coming about. -/
theorem isOk_of_off : ∀ name ∈ switches,
    (ofSettings (oneDatabase.set name (.bool false))).isOk = true := by
  decide +kernel

/-- A pair of dashes is as good a text as any other. -/
theorem isOk_of_dashes : ∀ name ∈ textual,
    (ofSettings (oneDatabase.set name (.text "--"))).isOk = true := by
  decide +kernel

theorem isOk_of_port : ∀ value ∈ [.int 0, .list []],
    (ofSettings (oneDatabase.set "port" value)).isOk = true := by
  decide +kernel

/-- **A text that reads alike where little else is set is plain.** -/
theorem isPlain_of_least (h : a.Reads value)
    (heq : ofSettings (oneDatabase.set a.flag.setting (.text a.text))
      = ofSettings (oneDatabase.set a.flag.setting value)) : a.IsPlain := by
  cases h with
  | on _ _ hplain => exact hplain
  | off hsetting hsome hodd =>
    exact isPlain_of_isOk (.off hsetting hsome hodd) heq (.inr (isOk_of_off _ hsetting))
  | text hplain => exact hplain
  | @number n hsetting hsome hread hplain =>
    by_contra hodd
    have hport : a.flag.setting = "port" ∧ n = 0 := by
      simpa [Classical.not_imp] using fun hall => hodd (hplain.mpr hall)
    refine hodd (isPlain_of_isOk (.number hsetting hsome hread hplain) heq (.inr ?_))
    rw [hport.1, hport.2]
    exact isOk_of_port _ (by simp)
  | noText hsetting hdashes hodd =>
    refine isPlain_of_isOk (.noText hsetting hdashes hodd) heq (.inl ?_)
    rw [hdashes]
    exact isOk_of_dashes _ hsetting
  | noNumber hsetting hdashes hodd =>
    simp only [numeric, List.mem_cons, List.not_mem_nil, or_false] at hsetting
    rcases hsetting with hname | hname
    · refine isPlain_of_isOk (.noNumber (by simp [hname, numeric]) hdashes hodd) heq (.inr ?_)
      rw [hname]
      exact isOk_of_port _ (by simp)
    · -- neither is a number of bytes, but not for the same reason
      have hdiffer : ofSettings (oneDatabase.set "net_buffer_length" (.text "--"))
          ≠ ofSettings (oneDatabase.set "net_buffer_length" (.list [])) :=
        fun h => by cases h
      rw [hname, hdashes] at heq
      exact (hdiffer heq).elim

theorem Assignment.IsAccepted.reads (h : a.IsAccepted) : a.Reads a.taken :=
  reads_of_readValue h.1 h.readValue_eq

/--
**Which texts mean the same in both places.**

A text that its flag takes comes to the same warnings and the same options or failure in the
configuration and on the command line, among all other settings, exactly if it is plain. Of one
that is not, the same options never come about in both ways.
-/
theorem text_means_same_iff_isPlain (h : a.IsAccepted) :
    ((∀ others : Others a, ∃ result, others.configured = some result
        ∧ others.commanded = some result)
      ↔ a.IsPlain)
    ∧ ∀ (others : Others a) (first second : List Log.Record) (options : Options),
      others.configured = some (first, .ok options) →
      others.commanded = some (second, .ok options) → a.IsPlain := by
  refine ⟨⟨fun hall => ?_, fun hplain others => ?_⟩,
    fun others first second options hconfigured hcommanded => ?_⟩
  · -- a database and nothing else already tells apart what is not plain
    obtain ⟨result, hconfigured, hcommanded⟩ := hall (Others.least a)
    rw [Others.configured_eq h, Option.some.injEq] at hconfigured
    rw [Others.commanded_eq h, Option.some.injEq] at hcommanded
    exact isPlain_of_least h.reads (congrArg Prod.snd (hconfigured.trans hcommanded.symm))
  · refine ⟨_, Others.configured_eq h, ?_⟩
    rw [Others.commanded_eq h, outcome_congr (readings_eq_of_isPlain h.reads hplain _)]
  · rw [Others.configured_eq h, Option.some.injEq] at hconfigured
    rw [Others.commanded_eq h, Option.some.injEq] at hcommanded
    exact isPlain_of_ofSettings h.reads (congrArg Prod.snd hconfigured)
      (congrArg Prod.snd hcommanded)

/-- A port may be written with digits of another script in both places. -/
theorem text_means_same_of_digit :
    let port : Assignment := ⟨⟨["-P"], "port", .integer⟩, "٣"⟩
    port.IsAccepted ∧ port.taken = .int 3
    ∧ ∀ others : Others port, ∃ result, others.configured = some result
        ∧ others.commanded = some result := by
  intro port
  have haccepted : port.IsAccepted := ⟨by decide +kernel, .int 3, by decide +kernel⟩
  have hplain : port.IsPlain :=
    ⟨fun hkind => absurd hkind (by decide), fun _ => by decide +kernel,
      fun htext => absurd htext (by decide)⟩
  exact ⟨haccepted, by decide +kernel, (text_means_same_iff_isPlain haccepted).1.mpr hplain⟩

/-- Rows that the command line leaves in, the configuration leaves out for the same word. -/
theorem no_data_false_is_on_when_configured :
    let shop : Fields := [("database", .text "shop")]
    let noData : Assignment := ⟨⟨["-no-data"], "no_data", .boolean⟩, "false"⟩
    let omitted (outcome : Option (List Log.Record × Except Failure Options)) : Option Bool :=
      outcome.bind fun result => result.2.toOption.map Options.omitData
    noData.IsAccepted
    ∧ omitted (outcomeOf
        (.object [("dump", .object (shop.set "no_data" (.text noData.text)))]) []) = some true
    ∧ omitted (outcomeOf (.object [("dump", .object shop)]) [noData.argument]) = some false := by
  intro shop noData omitted
  exact ⟨⟨by decide +kernel, .bool false, by decide +kernel⟩, by decide +kernel, by decide +kernel⟩

end CommandLine

end DatabaseDump
