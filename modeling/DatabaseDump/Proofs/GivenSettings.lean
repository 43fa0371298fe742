import DatabaseDump.CommandLine.Arguments
import DatabaseDump.Config
import DatabaseDump.Value.Equality
import Mathlib.Data.List.Nodup

/-!
# Settings from the command line

An assignment is an argument that gives a flag its value behind an equals sign. Such an argument
is recognised by what stands before the first equals sign alone, so its text may hold anything,
also what would be a flag of its own. Only a lone pair of dashes is no text at all.

Arguments that are assignments put one value after the other under the names of settings. So
does the merging of the configuration, and `Fields.get?_merge` says for both that the last value
under a name is the one that counts.
-/

namespace DatabaseDump

/-! ## Mappings -/

namespace Fields

variable {fields : Fields}

/-- Each name comes up once. -/
def IsDistinct (fields : Fields) : Prop := (fields.map Prod.fst).Nodup

instance (fields : Fields) : Decidable fields.IsDistinct :=
  inferInstanceAs (Decidable (fields.map Prod.fst).Nodup)

theorem get?_eq_none_of_not_mem {name : String} (h : name ∉ fields.map Prod.fst) :
    get? fields name = none :=
  get?_eq_none_of_any_eq_false (List.any_eq_false.mpr fun field hfield heq =>
    h (List.mem_map.mpr ⟨field, hfield, beq_iff_eq.mp heq⟩))

/-- Where each name comes up once, it does not matter from which end one looks. -/
theorem IsDistinct.get?_reverse (h : fields.IsDistinct) (name : String) :
    get? fields.reverse name = get? fields name := by
  induction fields with
  | nil => rfl
  | cons field fields ih =>
    obtain ⟨hnew, hrest⟩ := List.nodup_cons.mp h
    rw [List.reverse_cons, get?_append, ih hrest, get?_cons, get?_cons]
    by_cases hname : field.1 = name
    · simp [get?_eq_none_of_not_mem (hname ▸ hnew), hname]
    · simp [hname, get?]

theorem IsDistinct.set (h : fields.IsDistinct) (name : String) (value : Value) :
    (fields.set name value).IsDistinct := by
  unfold Fields.set
  cases hany : fields.any fun field => field.1 == name with
  | true =>
    rw [if_pos rfl]
    have hnames : (fields.map fun field => if field.1 == name then (name, value) else field).map
        Prod.fst = fields.map Prod.fst := by
      rw [List.map_map]
      refine List.map_congr_left fun field _ => ?_
      by_cases hname : field.1 = name
      · simp [hname]
      · simp [hname]
    rw [IsDistinct, hnames]
    exact h
  | false =>
    have hnew : name ∉ fields.map Prod.fst := by
      intro hmem
      obtain ⟨field, hfield, heq⟩ := List.mem_map.mp hmem
      exact List.any_eq_false.mp hany field hfield (beq_iff_eq.mpr heq)
    rw [if_neg Bool.false_ne_true, IsDistinct, List.map_append]
    exact List.Nodup.append h (by simp) (by simpa using hnew)

theorem IsDistinct.merge (h : fields.IsDistinct) (others : Fields) :
    (fields.merge others).IsDistinct := by
  induction others generalizing fields with
  | nil => exact h
  | cons field others ih => exact ih (h.set field.1 field.2)

end Fields

/-! ## Configurations -/

namespace Config

/-- The fields of a section: those of a mapping, or none where the section is missing. -/
inductive HasSection (sections : Fields) (name : String) : Fields → Prop
  | missing (h : sections.get? name = none) : HasSection sections name []
  | mapping {fields : Fields} (h : sections.get? name = some (.object fields))
      (hdistinct : fields.IsDistinct) : HasSection sections name fields

theorem HasSection.isDistinct {sections fields : Fields} {name : String}
    (h : HasSection sections name fields) : fields.IsDistinct := by
  cases h with
  | missing => exact List.nodup_nil
  | mapping _ hdistinct => exact hdistinct

/-- A section does not change with another one. -/
theorem HasSection.set_of_ne {sections fields : Fields} {name other : String}
    (h : HasSection sections name fields) (hne : other ≠ name) (value : Value) :
    HasSection (sections.set other value) name fields := by
  have hget := Fields.get?_set_of_ne sections hne value
  cases h with
  | missing hname => exact .missing (hget.trans hname)
  | mapping hname hdistinct => exact .mapping (hget.trans hname) hdistinct

theorem HasSection.fieldsOf_eq {sections fields : Fields} {name : String}
    (h : HasSection sections name fields) :
    (sectionNamed name (.object sections) >>= fieldsOf) = .ok fields := by
  cases h with
  | missing hname =>
    show fieldsOf ((sections.get? name).getD (.object [])) = _
    rw [hname]
    rfl
  | mapping hname =>
    show fieldsOf ((sections.get? name).getD (.object [])) = _
    rw [hname]
    rfl

/-- The settings of a configuration are its two sections, the second one winning. -/
theorem settings_eq_merge {sections connection dump : Fields}
    (hconnection : HasSection sections "connection" connection)
    (hdump : HasSection sections "dump" dump) :
    settings (.object sections) = .ok (connection.merge dump) := by
  calc settings (.object sections)
      = (do
        let first ← sectionNamed "connection" (.object sections) >>= fieldsOf
        let second ← sectionNamed "dump" (.object sections) >>= fieldsOf
        return first.merge second) := by
        simp only [settings, Config.connection, Config.dump, bind_assoc]
    _ = .ok (connection.merge dump) := by
        rw [hconnection.fieldsOf_eq, hdump.fieldsOf_eq]
        rfl

end Config

namespace CommandLine

/-- The flags whose settings a configuration may hold too. -/
def overridingFlags : List Flag := flags.filter fun flag => overriding.contains flag.setting

/-- The first spelling of a flag. -/
def Flag.spelling (flag : Flag) : String := flag.spellings.headD ""

/-- An argument that gives a flag its value behind an equals sign. -/
structure Assignment where
  flag : Flag
  text : String

/-- An assignment as it stands on the command line. -/
def Assignment.argument (a : Assignment) : String := a.flag.spelling ++ "=" ++ a.text

example : (Assignment.mk ⟨["-db"], "database", .text⟩ "a=b").argument = "-db=a=b" := by decide

/-! ## One assignment -/

theorem flagSpelled?_spelling :
    ∀ flag ∈ overridingFlags, flagSpelled? flag.spelling = some flag := by
  decide +kernel

theorem head?_spelling : ∀ flag ∈ overridingFlags, flag.spelling.toList.head? = some '-' := by
  decide +kernel

theorem isBare_eq_false : ∀ flag ∈ overridingFlags, flag.isBare = false := by
  decide +kernel

theorem equals_not_mem_spelling : ∀ entry ∈ spellings, '=' ∉ entry.1.toList := by
  decide +kernel

/-- What is spelled like a flag holds no equals sign. -/
theorem equals_not_mem_of_flagSpelled? {spelling : String} {flag : Flag}
    (h : flagSpelled? spelling = some flag) : '=' ∉ spelling.toList := by
  obtain ⟨before, after, hspellings, -⟩ := List.lookup_eq_some_iff.mp h
  have hmem : (spelling, flag) ∈ spellings := by
    rw [hspellings]
    exact List.mem_append_right _ List.mem_cons_self
  exact equals_not_mem_spelling _ hmem

/-- The first equals sign divides an argument, whatever stands behind it. -/
theorem splitAtEquals_append {spelling : String} (h : '=' ∉ spelling.toList) (text : String) :
    splitAtEquals (spelling ++ "=" ++ text) = some (spelling, text) := by
  have hchars : (spelling ++ "=" ++ text).toList = spelling.toList ++ '=' :: text.toList := by
    simp [String.toList_append]
  have hbefore : ∀ c ∈ spelling.toList, (c != '=') = true := fun c hc =>
    bne_iff_ne.mpr fun heq => h (heq ▸ hc)
  rw [splitAtEquals, hchars, List.takeWhile_append_of_pos hbefore,
    List.dropWhile_append_of_pos hbefore]
  simp

namespace Assignment

variable {a : Assignment}

theorem equals_mem_argument (a : Assignment) : '=' ∈ a.argument.toList := by
  simp [argument, String.toList_append]

theorem argument_ne {other : String} (h : '=' ∉ other.toList) : a.argument ≠ other :=
  fun heq => h (heq ▸ a.equals_mem_argument)

theorem head?_argument (h : a.flag ∈ overridingFlags) :
    a.argument.toList.head? = some '-' := by
  have hhead := head?_spelling a.flag h
  rw [argument, String.toList_append, String.toList_append, List.append_assoc, List.head?_append,
    hhead]
  rfl

/-- An assignment is recognised as the flag with its text. -/
theorem classify_argument (h : a.flag ∈ overridingFlags) :
    classify a.argument = .ok (.flag a.flag a.flag.spelling (some a.text)) := by
  have hspelled := flagSpelled?_spelling a.flag h
  have hwhole : flagSpelled? a.argument = none := by
    cases hfound : flagSpelled? a.argument with
    | none => rfl
    | some flag => exact absurd a.equals_mem_argument (equals_not_mem_of_flagSpelled? hfound)
  have hassigned : assigned? a.argument = some (.flag a.flag a.flag.spelling (some a.text)) := by
    rw [assigned?, argument, splitAtEquals_append (equals_not_mem_of_flagSpelled? hspelled)]
    show (flagSpelled? a.flag.spelling >>= _) = _
    rw [hspelled]
    rfl
  have hdash : a.argument ≠ "-" := argument_ne (by decide)
  rw [classify, head?_argument h, hwhole, hassigned]
  simp [hdash]

end Assignment

/-! ## Several assignments -/

theorem tokens_cons {argument : String} (h : argument ≠ "--") (rest : List String) :
    tokens (argument :: rest) = do return (← classify argument) :: (← tokens rest) := by
  rw [tokens]
  exact h

theorem tokens_assignments {assignments : List Assignment}
    (h : ∀ a ∈ assignments, a.flag ∈ overridingFlags) :
    tokens (assignments.map Assignment.argument)
      = .ok (assignments.map fun a => .flag a.flag a.flag.spelling (some a.text)) := by
  induction assignments with
  | nil => rfl
  | cons a assignments ih =>
    obtain ⟨ha, hrest⟩ := List.forall_mem_cons.mp h
    rw [List.map_cons, tokens_cons (Assignment.argument_ne (by decide)), ih hrest,
      Assignment.classify_argument ha]
    rfl

/-- A flag that takes something takes all that is attached to it. -/
theorem clusterOf_attached {flag : Flag} (h : flag.isBare = false) (spelling text : String) :
    clusterOf flag spelling (some text) = .ok ⟨[], flag, some text⟩ := by
  have hread : readCluster flag text.toList = .ok ⟨[], flag, some text⟩ := by
    cases htext : text.toList with
    | nil =>
      obtain rfl : text = "" := String.toList_inj.mp htext
      simp [readCluster, h]
    | cons c rest =>
      simp [readCluster, h, ← htext]
  simp [clusterOf, h, hread]

/-- The field that an assignment of a value gives. -/
def Assignment.field (value : Assignment → Value) (a : Assignment) : String × Value :=
  (a.flag.setting, value a)

/-- Assignments put one value after the other under the names of settings. -/
theorem readTokens_assignments {assignments : List Assignment} {value : Assignment → Value}
    (h : ∀ a ∈ assignments,
      a.flag ∈ overridingFlags ∧ readValue a.flag (some a.text) = .ok (value a))
    (progress : Progress) :
    readTokens progress (assignments.map fun a => .flag a.flag a.flag.spelling (some a.text))
      = .ok { progress with
        given := progress.given.merge (assignments.map (Assignment.field value)) } := by
  induction assignments generalizing progress with
  | nil => rfl
  | cons a assignments ih =>
    obtain ⟨⟨hflag, hvalue⟩, hrest⟩ := List.forall_mem_cons.mp h
    rw [List.map_cons, readTokens, clusterOf_attached (isBare_eq_false a.flag hflag)]
    have htake : progress.takeCluster ⟨[], a.flag, some a.text⟩ (some a.text)
        = .ok { progress with given := progress.given.set a.flag.setting (value a) } := by
      show progress.take a.flag (some a.text) = _
      rw [Progress.take, hvalue]
      rfl
    dsimp only
    rw [htake]
    exact ih hrest _

/-- **Assignments are read from left to right.** -/
theorem read_assignments {assignments : List Assignment} {value : Assignment → Value}
    (h : ∀ a ∈ assignments,
      a.flag ∈ overridingFlags ∧ readValue a.flag (some a.text) = .ok (value a)) :
    read (assignments.map Assignment.argument)
      = .arguments (Fields.merge [] (assignments.map (Assignment.field value))) := by
  rw [read, tokens_assignments fun a ha => (h a ha).1]
  dsimp only
  rw [readTokens_assignments h]
  rfl

/-! ## Over a configuration -/

/-- What is given on the command line wins over what was set, for the settings that have a flag. -/
theorem get?_override (settings given : Fields) (name : String) :
    (override settings given).get? name
      = if name ∈ overriding then (given.get? name).or (settings.get? name)
        else settings.get? name := by
  unfold override
  generalize overriding = names
  induction names generalizing settings with
  | nil => rfl
  | cons first names ih =>
    rw [List.foldl_cons, ih]
    cases hfirst : given.get? first with
    | none =>
      by_cases hname : name = first
      · simp [hname, hfirst]
      · simp [hname]
    | some value =>
      dsimp only
      rw [Fields.get?_set]
      by_cases hname : first = name
      · simp [← hname, hfirst]
      · simp [hname, Ne.symm hname]

/-- Settings stay a mapping under what is given on the command line. -/
theorem isDistinct_override {settings : Fields} (h : settings.IsDistinct) (given : Fields) :
    (override settings given).IsDistinct := by
  unfold override
  generalize overriding = names
  induction names generalizing settings with
  | nil => exact h
  | cons first names ih =>
    rw [List.foldl_cons]
    refine ih ?_
    cases given.get? first with
    | none => exact h
    | some value => exact h.set first value

/-- The value that a text stands for, by what a flag takes. -/
def FlagKind.value? : FlagKind → String → Option Value
  | .text, s => some (.text s)
  | .boolean, s => (readBoolean s).toOption.map .bool
  | .integer, s => (Text.readInteger s).toOption.map .int
  | .help, _ | .switch, _ => none

/-- The value that an assignment gives, if its text is of the kind of its flag. -/
def Assignment.value? (a : Assignment) : Option Value := a.flag.kind.value? a.text

theorem readValue_of_value? {flag : Flag} {text : String} {value : Value} (htext : text ≠ "--")
    (h : flag.kind.value? text = some value) : readValue flag (some text) = .ok value := by
  have heffective : effective (some text) = some text := by simp [effective, htext]
  unfold readValue
  rw [heffective]
  cases hkind : flag.kind with
  | help | switch => simp [hkind, FlagKind.value?] at h
  | text => simpa [hkind, FlagKind.value?] using h
  | boolean =>
    cases hread : readBoolean text with
    | error failure => simp [hkind, FlagKind.value?, hread, Except.toOption] at h
    | ok b => simpa [hkind, FlagKind.value?, hread, Except.toOption] using h
  | integer =>
    cases hread : Text.readInteger text with
    | error fault => simp [hkind, FlagKind.value?, hread, Except.toOption] at h
    | ok n => simpa [hkind, FlagKind.value?, hread, Except.toOption] using h

/-- The value of the last assignment for a setting. -/
def lastValue? (assignments : List Assignment) (name : String) : Option Value :=
  (assignments.reverse.find? fun a => a.flag.setting == name).bind Assignment.value?

theorem get?_reverse_fields {assignments : List Assignment} {value : Assignment → Value}
    (h : ∀ a ∈ assignments, a.value? = some (value a)) (name : String) :
    Fields.get? (assignments.map (Assignment.field value)).reverse name
      = lastValue? assignments name := by
  rw [← List.map_reverse, Fields.get?, List.find?_map, Option.map_map, lastValue?]
  show (assignments.reverse.find? fun a => a.flag.setting == name).map value = _
  cases hfind : assignments.reverse.find? fun a => a.flag.setting == name with
  | none => rfl
  | some a =>
    exact (h a (List.mem_reverse.mp (List.mem_of_find?_eq_some hfind))).symm

theorem setting_mem_overriding {flag : Flag} (h : flag ∈ overridingFlags) :
    flag.setting ∈ overriding := by
  simpa using (List.mem_filter.mp h).2

/-- Only settings that have a flag can be assigned. -/
theorem lastValue?_eq_none {assignments : List Assignment} {name : String}
    (h : ∀ a ∈ assignments, a.flag ∈ overridingFlags) (hname : name ∉ overriding) :
    lastValue? assignments name = none := by
  have hnone : (assignments.reverse.find? fun a => a.flag.setting == name) = none := by
    refine List.find?_eq_none.mpr fun a ha heq => hname ?_
    rw [← beq_iff_eq.mp heq]
    exact setting_mem_overriding (h a (List.mem_reverse.mp ha))
  rw [lastValue?, hnone, Option.bind_none]

/--
**The last assignment for a setting wins, and the configuration is left for the others.**

Assignments with a text of the kind of their flag can be read, whatever their order and however
often a flag is repeated. What they come to over a configuration is a mapping. Under the setting
of a flag it has the value of the last assignment for it, and under any other name the value of
the dump section or, where it has none, of the connection section.
-/
theorem last_assignment_wins {sections connection dump : Fields} {assignments : List Assignment}
    (hconnection : Config.HasSection sections "connection" connection)
    (hdump : Config.HasSection sections "dump" dump)
    (hassignments : ∀ a ∈ assignments,
      a.flag ∈ overridingFlags ∧ a.text ≠ "--" ∧ a.value?.isSome = true) :
    ∃ given settings, read (assignments.map Assignment.argument) = .arguments given
      ∧ Config.settings (.object sections) = .ok settings
      ∧ (override settings given).IsDistinct
      ∧ ∀ name, (override settings given).get? name
        = (lastValue? assignments name).or ((dump.get? name).or (connection.get? name)) := by
  let value (a : Assignment) : Value := a.value?.getD .null
  have hvalue : ∀ a ∈ assignments, a.value? = some (value a) := by
    intro a ha
    obtain ⟨-, -, hsome⟩ := hassignments a ha
    obtain ⟨v, hv⟩ := Option.isSome_iff_exists.mp hsome
    simp only [value, hv, Option.getD_some]
  have hread : read (assignments.map Assignment.argument)
      = .arguments (Fields.merge [] (assignments.map (Assignment.field value))) :=
    read_assignments fun a ha =>
      ⟨(hassignments a ha).1, readValue_of_value? (hassignments a ha).2.1 (hvalue a ha)⟩
  refine ⟨_, _, hread, Config.settings_eq_merge hconnection hdump,
    isDistinct_override (hconnection.isDistinct.merge dump) _, fun name => ?_⟩
  rw [get?_override, Fields.get?_merge, Fields.get?_merge, hdump.isDistinct.get?_reverse,
    get?_reverse_fields hvalue]
  split
  · rw [show Fields.get? [] name = none from rfl, Option.or_none]
  · rename_i hname
    rw [lastValue?_eq_none (fun a ha => (hassignments a ha).1) hname, Option.none_or]

/-- Repeated flags, texts that look like flags, digits of another script and an empty text. -/
theorem last_assignment_wins_repeated :
    let dump : Fields := [("user", .text "dba"), ("where", .text "id > 3")]
    let connection : Fields := [("port", .int 1), ("user", .text "root"), ("host", .text "db")]
    let sections : Fields := [("dump", .object dump), ("connection", .object connection)]
    let database : Flag := ⟨["-db"], "database", .text⟩
    let noData : Flag := ⟨["-no-data"], "no_data", .boolean⟩
    let assignments : List Assignment :=
      [⟨database, "shop"⟩, ⟨noData, "on"⟩, ⟨⟨["-P"], "port", .integer⟩, "٣"⟩, ⟨noData, " Off "⟩,
        ⟨database, "-csv=a b"⟩, ⟨⟨["-where"], "where", .text⟩, ""⟩]
    assignments.map Assignment.argument
      = ["-db=shop", "-no-data=on", "-P=٣", "-no-data= Off ", "-db=-csv=a b", "-where="]
    ∧ (Config.HasSection sections "connection" connection
      ∧ Config.HasSection sections "dump" dump)
    ∧ (∀ a ∈ assignments, a.flag ∈ overridingFlags ∧ a.text ≠ "--" ∧ a.value?.isSome = true)
    ∧ ∃ given settings, read (assignments.map Assignment.argument) = .arguments given
      ∧ Config.settings (.object sections) = .ok settings
      ∧ ["database", "no_data", "port", "where", "user", "host", "csv"].map
          (override settings given).get?
        = [some (.text "-csv=a b"), some (.bool false), some (.int 3), some (.text ""),
          some (.text "dba"), some (.text "db"), none] := by
  intro dump connection sections database noData assignments
  have hconnection : Config.HasSection sections "connection" connection := .mapping rfl (by decide)
  have hdump : Config.HasSection sections "dump" dump := .mapping rfl (by decide)
  have hassignments : ∀ a ∈ assignments,
      a.flag ∈ overridingFlags ∧ a.text ≠ "--" ∧ a.value?.isSome = true := by decide +kernel
  obtain ⟨given, settings, hread, hsettings, -, hget⟩ :=
    last_assignment_wins hconnection hdump hassignments
  refine ⟨by decide +kernel, ⟨hconnection, hdump⟩, hassignments, given, settings, hread, hsettings,
    ?_⟩
  rw [List.map_congr_left fun name _ => hget name]
  decide +kernel

end CommandLine

end DatabaseDump
