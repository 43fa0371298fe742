import DatabaseDump.Proofs.Endings

/-!
# Which runs report their failure

What fails while databases are dumped is answered with a complaint and an exit code, and so is
a configuration file that is missing or malformed. The log is set up between the two, and a
failure there is handled by nobody: the run ends with it.

`IsForeseen` says which configurations come through, in terms of the section for the log alone.
All other sections may be missing or have any shape.
-/

namespace DatabaseDump

namespace Log

/-- A word in capitals. -/
def capitals (word : String) : String := String.ofList (word.toList.flatMap capital)

/-- A word sets a threshold, whatever case its letters have. -/
def SetsThreshold (word : String) : Prop := (threshold? (capitals word)).isSome = true

/-- Settings of a log that can be set up. When the log is to tell everything, no level is read. -/
structure AreFit (folder : Folder) (tellsAll : Bool) (settings : Fields) : Prop where
  level : tellsAll = false →
    ∃ word, (settings.get? "level").getD (.text "INFO") = .text word ∧ SetsThreshold word
  file : (settings.getOrNull "file").isGiven = true →
    ∃ path opened, settings.getOrNull "file" = .text path ∧ openFile folder path = .ok opened

section
variable {folder : Folder} {settings : Fields}

/-- Settings may leave out everything. -/
theorem areFit_nil (folder : Folder) (tellsAll : Bool) : AreFit folder tellsAll [] :=
  ⟨fun _ => ⟨"INFO", rfl, rfl⟩, nofun⟩

theorem areFit_set_level :
    AreFit folder false (settings.set "level" (.text "DEBUG")) ↔ AreFit folder true settings := by
  have hfile : (settings.set "level" (.text "DEBUG")).getOrNull "file"
      = settings.getOrNull "file" := by
    rw [Fields.getOrNull, Fields.get?_set_of_ne _ (by decide), Fields.getOrNull]
  constructor
  · intro h
    exact ⟨nofun, hfile ▸ h.file⟩
  · intro h
    refine ⟨fun _ => ⟨"DEBUG", ?_, rfl⟩, hfile.symm ▸ h.file⟩
    rw [Fields.get?_set_self]
    rfl

theorem levelWord_object (settings : Fields) : levelWord (.object settings)
    = match (settings.get? "level").getD (.text "INFO") with
      | .text word =>
        if isWord (capitals word) then .ok (capitals word)
        else .error (.unknownLevel (capitals word))
      | other => .error (.levelShape other.shape) := rfl

/-- Not every word that means something to the log sets a threshold. -/
theorem exists_of_levelWord_ok {word : String} {threshold : Nat}
    (hword : levelWord (.object settings) = .ok word)
    (hthreshold : thresholdOf word = .ok threshold) :
    ∃ word, (settings.get? "level").getD (.text "INFO") = .text word ∧ SetsThreshold word := by
  rw [levelWord_object] at hword
  split at hword
  · rename_i spelled hspelled
    refine ⟨spelled, hspelled, ?_⟩
    split at hword
    · cases hword
      unfold thresholdOf at hthreshold
      split at hthreshold
      · rename_i hfound
        exact Option.isSome_iff_exists.mpr ⟨_, hfound⟩
      · cases hthreshold
    · cases hword
  · cases hword

theorem levelWord_eq_ok {word : String}
    (hlevel : (settings.get? "level").getD (.text "INFO") = .text word)
    (h : SetsThreshold word) : levelWord (.object settings) = .ok (capitals word) := by
  have hthreshold : (threshold? (capitals word)).isSome = true := h
  have hword : isWord (capitals word) = true := by rw [isWord, hthreshold, Bool.true_or]
  rw [levelWord_object, hlevel]
  dsimp only
  rw [if_pos hword]

theorem exists_of_openNamed_ok {file : Value} {opened : Option Location × Folder}
    (h : openNamed folder file = .ok opened) (hgiven : file.isGiven = true) :
    ∃ path opened, file = .text path ∧ openFile folder path = .ok opened := by
  unfold openNamed at h
  rw [hgiven] at h
  cases file with
  | text path =>
    obtain ⟨opened, hopened, -⟩ := exists_of_bind_eq_ok h
    exact ⟨path, opened, rfl, hopened⟩
  | null | bool | int | float | list | object => cases h

theorem exists_openNamed_eq_ok {file : Value}
    (h : file.isGiven = true → ∃ path opened, file = .text path
      ∧ openFile folder path = .ok opened) : ∃ opened, openNamed folder file = .ok opened := by
  cases hgiven : file.isGiven with
  | false =>
    unfold openNamed
    rw [hgiven]
    exact ⟨_, rfl⟩
  | true =>
    obtain ⟨path, opened, rfl, hopened⟩ := h hgiven
    unfold openNamed
    rw [hgiven]
    dsimp only
    rw [hopened]
    exact ⟨_, rfl⟩

/-- **The log can be set up with fit settings, and with no others.** -/
theorem exists_setUp_iff :
    (∃ setup after, setUp folder (.object settings) = (.ok setup, after))
      ↔ AreFit folder false settings := by
  constructor
  · rintro ⟨setup, after, h⟩
    unfold setUp at h
    split at h
    · cases h
    · rename_i word file opened hprepared
      obtain ⟨found, hword, hrest⟩ := exists_of_bind_eq_ok hprepared
      obtain ⟨named, hnamed, hrest⟩ : ∃ named,
          openNamed folder (settings.getOrNull "file") = .ok named
            ∧ (.ok (found, named) : Except Failure _) = .ok (word, file, opened) :=
        exists_of_bind_eq_ok hrest
      obtain ⟨rfl, rfl⟩ := Prod.mk.inj (Except.ok.inj hrest)
      -- a word that is no level comes to light only now, when the file has been opened
      cases hthreshold : thresholdOf found with
      | error failure =>
        rw [hthreshold] at h
        cases h
      | ok threshold =>
        exact ⟨fun _ => exists_of_levelWord_ok hword hthreshold, exists_of_openNamed_ok hnamed⟩
  · intro h
    obtain ⟨word, hlevel, hsets⟩ := h.level rfl
    obtain ⟨threshold, hthreshold⟩ := Option.isSome_iff_exists.mp hsets
    obtain ⟨opened, hopened⟩ := exists_openNamed_eq_ok h.file
    have hprepared : prepare folder (.object settings) = .ok (capitals word, opened) := by
      rw [prepare, levelWord_eq_ok hlevel hsets]
      show openNamed folder (settings.getOrNull "file") >>= _ = _
      rw [hopened]
      rfl
    have hfound : thresholdOf (capitals word) = .ok threshold := by
      unfold thresholdOf
      rw [hthreshold]
    refine ⟨⟨threshold, opened.1⟩, opened.2, ?_⟩
    rw [setUp, hprepared]
    dsimp only
    rw [hfound]
    rfl

end

end Log

namespace Program

/-- The run comes to its normal end, or it exits with code 1 and the reason is told last. -/
inductive IsReported (stamp : String) (report : Report) : Prop
  | normal (hending : report.ending = .exit 0)
  | complained (records : List Log.Record) (reason : String) (hending : report.ending = .exit 1)
      (hstderr : report.stderr = Log.lines stamp records ++ complaint reason ++ "\n")
  | malformed (hending : report.ending = .exit 1) (hstderr : report.stderr = malformedConfig)

/-- The run ends with a failure that nobody handled. -/
def Report.IsUnhandled (report : Report) : Prop := ∃ failure, report.ending = .failed failure

theorem Report.IsUnhandled.not_isReported {stamp : String} {report : Report}
    (h : report.IsUnhandled) : ¬IsReported stamp report := by
  obtain ⟨failure, hfailed⟩ := h
  rintro (hending | ⟨_, _, hending, _⟩ | ⟨hending, _⟩)
  · cases hfailed.symm.trans hending
  · cases hfailed.symm.trans hending
  · cases hfailed.symm.trans hending

/--
The program knows what to do with the configuration: its file is missing or malformed, or the
log can be set up with the section that is meant for it.
-/
inductive IsForeseen (invocation : Invocation) (given : Fields) : Prop
  | missing {path : String}
      (h : Config.load invocation.folder invocation.documents invocation.environment
        (configPath given) = .error (.unreadable (.file .missing path)))
  | malformed
      (h : Config.load invocation.folder invocation.documents invocation.environment
        (configPath given) = .error .malformed)
  | read {config settings : Fields}
      (h : Config.load invocation.folder invocation.documents invocation.environment
        (configPath given) = .ok (.object config))
      (hlogging : (config.get? "logging").getD (.object []) = .object settings)
      (hfit : Log.AreFit invocation.folder (CommandLine.isGiven given "verbose") settings)

variable {invocation : Invocation} {config : Value} {given : Fields}

/-- Whatever becomes of the work, it is reported. -/
theorem isReported_perform {setup : Log.Setup} {folder : Folder} {time : String}
    (htime : elapsed invocation.clock = .ok time) :
    IsReported invocation.stamp (perform invocation config given setup folder) := by
  rw [perform, htime]
  rcases Work.start (work invocation.server config given)
    { folder, journal := setup.journal invocation.stamp } with ⟨outcome, session⟩
  cases outcome with
  | ok outcome =>
    cases outcome with
    | dumped options => exact .normal rfl
    | told => exact .normal rfl
  | error failure =>
    -- the records of the dump stand before the complaint
    let records := Log.visible setup.threshold (session.log ++ [⟨.debug, "Dump aborted"⟩])
    refine .complained records failure.message rfl ?_
    show Log.lines invocation.stamp records ++ (complaint failure.message ++ "\n") = _
    rw [String.append_assoc]

theorem logging_eq_ok_iff {part : Value} : Config.logging config = .ok part ↔
    ∃ fields : Fields, config = .object fields
      ∧ (fields.get? "logging").getD (.object []) = part := by
  constructor
  · intro h
    cases config with
    | object fields => exact ⟨fields, rfl, Except.ok.inj h⟩
    | null | bool | int | float | text | list => cases h
  · rintro ⟨fields, rfl, rfl⟩
    rfl

/-- The log can be set up if its section is fields, and these are fit. -/
theorem exists_setup_iff {folder : Folder} :
    (∃ logging setup after, logSettings config given = .ok logging
      ∧ Log.setUp folder logging = (.ok setup, after))
    ↔ ∃ settings : Fields, Config.logging config = .ok (.object settings)
      ∧ Log.AreFit folder (CommandLine.isGiven given "verbose") settings := by
  constructor
  · rintro ⟨logging, setup, after, hlogging, hsetup⟩
    obtain ⟨part, hpart, hlogging⟩ := exists_of_bind_eq_ok hlogging
    cases hverbose : CommandLine.isGiven given "verbose" with
    | true =>
      rw [hverbose] at hlogging
      cases part with
      | object settings =>
        cases hlogging
        exact ⟨settings, hpart, Log.areFit_set_level.mp (Log.exists_setUp_iff.mp ⟨_, _, hsetup⟩)⟩
      | null | bool | int | float | text | list => cases hlogging
    | false =>
      rw [hverbose] at hlogging
      cases hlogging
      cases logging with
      | object settings => exact ⟨settings, hpart, Log.exists_setUp_iff.mp ⟨_, _, hsetup⟩⟩
      | null | bool | int | float | text | list => cases hsetup
  · rintro ⟨settings, hpart, hfit⟩
    rw [logSettings, hpart]
    cases hverbose : CommandLine.isGiven given "verbose" with
    | true =>
      rw [hverbose] at hfit
      obtain ⟨setup, after, hsetup⟩ := Log.exists_setUp_iff.mpr (Log.areFit_set_level.mpr hfit)
      exact ⟨_, setup, after, rfl, hsetup⟩
    | false =>
      rw [hverbose] at hfit
      obtain ⟨setup, after, hsetup⟩ := Log.exists_setUp_iff.mpr hfit
      exact ⟨_, setup, after, rfl, hsetup⟩

/-- A configuration that was read is reported on as far as the log can be set up. -/
theorem withConfig_cases (invocation : Invocation) (config : Value) (given : Fields) :
    (∃ logging setup after, logSettings config given = .ok logging
      ∧ Log.setUp invocation.folder logging = (.ok setup, after)
      ∧ withConfig invocation config given = perform invocation config given setup after)
    ∨ (¬∃ logging setup after, logSettings config given = .ok logging
        ∧ Log.setUp invocation.folder logging = (.ok setup, after))
      ∧ (withConfig invocation config given).IsUnhandled := by
  unfold withConfig
  cases hlogging : logSettings config given with
  | error failure =>
    refine .inr ⟨?_, failure, rfl⟩
    rintro ⟨_, _, _, hok, _⟩
    cases hok
  | ok logging =>
    dsimp only
    cases hsetup : Log.setUp invocation.folder logging with
    | mk outcome after =>
      cases outcome with
      | error failure =>
        refine .inr ⟨?_, failure, rfl⟩
        rintro ⟨_, _, _, hok, hfound⟩
        cases hok
        rw [hsetup] at hfound
        cases hfound
      | ok setup => exact .inl ⟨logging, setup, after, rfl, hsetup, rfl⟩

theorem notFound_eq (path : String) : notFound path
    = complaint ("configuration file " ++ betweenQuotes path ++ " not found") ++ "\n" := by
  have hline : " not found\n" = " not found" ++ "\n" := rfl
  rw [notFound, complaint, complaint, hline]
  simp only [String.append_assoc]

theorem withArguments_cases {time : String} (htime : elapsed invocation.clock = .ok time) :
    (IsForeseen invocation given
      ∧ IsReported invocation.stamp (withArguments invocation given))
    ∨ (¬IsForeseen invocation given
      ∧ (withArguments invocation given).IsUnhandled) := by
  unfold withArguments
  dsimp only
  split
  · rename_i path hload
    exact .inl ⟨.missing hload, .complained [] _ rfl (notFound_eq (configPath given))⟩
  · rename_i hload
    exact .inl ⟨.malformed hload, .malformed rfl rfl⟩
  · rename_i failure hmissing hload
    refine .inr ⟨?_, failure, rfl⟩
    rintro (⟨h⟩ | ⟨h⟩ | ⟨h, _, _⟩)
    · cases hload.symm.trans h
      exact hmissing _ rfl
    · cases hload.symm.trans h
    · cases hload.symm.trans h
  · rename_i config hload
    rcases withConfig_cases invocation config given with
      ⟨logging, setup, after, hlogging, hsetup, heq⟩ | ⟨hnone, hfailed⟩
    · obtain ⟨settings, hpart, hfit⟩ :=
        exists_setup_iff.mp ⟨logging, setup, after, hlogging, hsetup⟩
      obtain ⟨fields, rfl, hfields⟩ := logging_eq_ok_iff.mp hpart
      exact .inl ⟨.read hload hfields hfit, heq ▸ isReported_perform htime⟩
    · refine .inr ⟨?_, hfailed⟩
      rintro (⟨h⟩ | ⟨h⟩ | ⟨h, hfields, hfit⟩)
      · cases hload.symm.trans h
      · cases hload.symm.trans h
      · cases hload.symm.trans h
        exact hnone (exists_setup_iff.mpr ⟨_, logging_eq_ok_iff.mpr ⟨_, rfl, hfields⟩, hfit⟩)

/--
**A run reports how it ends exactly if the program knows what to do with its configuration.**

Otherwise it ends with a failure that nobody handled. The arguments have been accepted, and the
clock tells the time that a complete dump mentions.
-/
theorem run_reports_iff_foreseen {time : String}
    (hgiven : CommandLine.read invocation.arguments = .arguments given)
    (htime : elapsed invocation.clock = .ok time) :
    (IsReported invocation.stamp (run invocation) ↔ IsForeseen invocation given)
    ∧ (IsForeseen invocation given ∨ (run invocation).IsUnhandled) := by
  cases hempty : invocation.arguments.isEmpty with
  | true =>
    -- without arguments there is no configuration, and nothing but help
    have hnone : invocation.arguments = [] := List.isEmpty_iff.mp hempty
    obtain rfl : [] = given := by
      rw [hnone] at hgiven
      cases hgiven
      rfl
    have hforeseen : IsForeseen invocation [] := .read rfl rfl (Log.areFit_nil _ _)
    have hreported : IsReported invocation.stamp (run invocation) := by
      rw [run, hempty]
      exact .normal rfl
    exact ⟨iff_of_true hreported hforeseen, .inl hforeseen⟩
  | false =>
    have hrun : run invocation = withArguments invocation given := by
      rw [run, hempty, if_neg Bool.false_ne_true, hgiven]
    rw [hrun]
    rcases withArguments_cases htime with ⟨hforeseen, hreported⟩ | ⟨hunforeseen, hunhandled⟩
    · exact ⟨iff_of_true hreported hforeseen, .inl hforeseen⟩
    · exact ⟨iff_of_false hunhandled.not_isReported hunforeseen, .inr hunhandled⟩

/-- An empty section for the connection is reported. -/
theorem run_reports_empty_connection :
    let file : Location := ["srv", "modump.yaml"]
    let given : Fields := [("config", .text "modump.yaml"), ("database", .text "shop")]
    let invocation : Invocation :=
      { arguments := ["-c", "modump.yaml", "-db", "shop"]
        folder := { base := ["srv"], files := [(file, [])] }
        documents := [(file, .settings (.object [("connection", .null)]))]
        server := Dump.shop }
    CommandLine.read invocation.arguments = .arguments given
    ∧ (∃ time, elapsed invocation.clock = .ok time)
    ∧ IsForeseen invocation given
    ∧ IsReported invocation.stamp (run invocation) := by
  intro file given invocation
  have hgiven : CommandLine.read invocation.arguments = .arguments given := rfl
  obtain ⟨time, htime⟩ : ∃ time, elapsed invocation.clock = .ok time :=
    exists_elapsed_of_binary 0.0 1.5
  have hload : Config.load invocation.folder invocation.documents invocation.environment
      (configPath given) = .ok (.object [("connection", .null)]) := by
    have hpath : configPath given = "modump.yaml" := rfl
    rw [hpath]
    rfl
  have hforeseen : IsForeseen invocation given := .read hload rfl (Log.areFit_nil _ _)
  exact ⟨hgiven, ⟨time, htime⟩, hforeseen, (run_reports_iff_foreseen hgiven htime).1.mpr hforeseen⟩

/-- An empty section for the log is not. -/
theorem run_fails_on_empty_logging :
    let file : Location := ["srv", "modump.yaml"]
    let invocation : Invocation :=
      { arguments := ["-c", "modump.yaml", "-db", "shop"]
        folder := { base := ["srv"], files := [(file, [])] }
        documents := [(file, .settings (.object [("logging", .null)]))]
        server := Dump.shop }
    CommandLine.read invocation.arguments
      = .arguments [("config", .text "modump.yaml"), ("database", .text "shop")]
    ∧ (run invocation).ending = .failed (.sectionShape .null)
    ∧ ¬IsReported invocation.stamp (run invocation) := by
  intro file invocation
  have hending : (run invocation).ending = .failed (.sectionShape .null) := by decide +kernel
  exact ⟨rfl, hending, Report.IsUnhandled.not_isReported ⟨_, hending⟩⟩

end Program

end DatabaseDump
