import DatabaseDump.Session
import Mathlib.Data.List.Forall2

/-!
# What work leaves behind

Work in a session adds to what is there: statements to the output, files to the folder,
calls to the trace, records to the log. `Session.Grows` says what was added to output
and folder, apart from the log file, and holds of two pieces of work in a row if it holds
of each.

Two judgements are built on it. `Asks` says that work only asks: its outcome is the same
in every session, and only calls and records are added. `Leaves` says of any work what it
adds when it comes to an end and when it fails. There is one rule for two pieces of work
in a row and one for a loop, so what a dump writes is derived along its own structure.
-/

namespace DatabaseDump

/-- Statements of the output, and files in the order in which they are written. -/
structure Written where
  output : List Sql.Statement := []
  files : List (Location × Bytes) := []

namespace Written

instance : Append Written where
  append first second := ⟨first.output ++ second.output, first.files ++ second.files⟩

@[simp] theorem output_append (first second : Written) :
    (first ++ second).output = first.output ++ second.output := rfl

@[simp] theorem files_append (first second : Written) :
    (first ++ second).files = first.files ++ second.files := rfl

@[simp] theorem nil_append (written : Written) : {} ++ written = written := rfl

@[simp] theorem append_nil (written : Written) : written ++ {} = written := by
  show Written.mk (written.output ++ []) (written.files ++ []) = written
  rw [List.append_nil, List.append_nil]

/-- How pieces are bracketed does not matter, so a run can be cut wherever a proof needs it. -/
theorem append_assoc (first second third : Written) :
    first ++ second ++ third = first ++ (second ++ third) := by
  show Written.mk _ _ = Written.mk _ _
  rw [output_append, files_append, List.append_assoc, List.append_assoc]
  rfl

/-- Several pieces in order. -/
def join (pieces : List Written) : Written :=
  ⟨pieces.flatMap Written.output, pieces.flatMap Written.files⟩

@[simp] theorem join_cons (piece : Written) (pieces : List Written) :
    join (piece :: pieces) = piece ++ join pieces := rfl

end Written

/-- What is held at a location after files were written in order. -/
def latest (files : List (Location × Bytes)) (location : Location) (held : Option Bytes) :
    Option Bytes :=
  files.foldl (fun held file => if file.1 = location then some file.2 else held) held

@[simp] theorem latest_append (files more : List (Location × Bytes)) (location : Location)
    (held : Option Bytes) :
    latest (files ++ more) location held = latest more location (latest files location held) :=
  List.foldl_append

/-- Files at other locations do not matter. -/
theorem latest_of_forall_ne {files : List (Location × Bytes)} {location : Location}
    (h : ∀ file ∈ files, file.1 ≠ location) (held : Option Bytes) :
    latest files location held = held := by
  induction files generalizing held with
  | nil => rfl
  | cons file files ih =>
    have hfile : file.1 ≠ location := h file (by simp)
    rw [latest, List.foldl_cons, if_neg hfile]
    exact ih (fun other hother => h other (List.mem_cons_of_mem _ hother)) held

namespace Folder

/-! A file is put without a change to what is a directory, so paths lead where they led before. -/

@[simp] theorem base_put (folder : Folder) (location : Location) (content : Bytes) :
    (folder.put location content).base = folder.base := by
  unfold put
  split
  · rfl
  · rfl

@[simp] theorem directories_put (folder : Folder) (location : Location) (content : Bytes) :
    (folder.put location content).directories = folder.directories := by
  unfold put
  split
  · rfl
  · rfl

/-- Writing a file does not touch the others. -/
theorem read?_put_of_ne (folder : Folder) {location other : Location} (h : location ≠ other)
    (content : Bytes) : (folder.put location content).read? other = folder.read? other := by
  have hne : (other == location) = false := beq_eq_false_iff_ne.mpr (Ne.symm h)
  unfold put
  split
  · -- the file is there already, and its entry is replaced where it stands
    show List.lookup other (folder.files.map _) = List.lookup other folder.files
    induction folder.files with
    | nil => rfl
    | cons file files ih =>
      by_cases hname : file.1 = location
      · have hfile : (other == file.1) = false := by rw [hname]; exact hne
        rw [List.map_cons, hname, beq_self_eq_true, if_pos rfl, List.lookup_cons, hne,
          List.lookup_cons, hfile]
        exact ih
      · have hkept : (file.1 == location) = false := beq_eq_false_iff_ne.mpr hname
        rw [List.map_cons, hkept, if_neg Bool.false_ne_true, List.lookup_cons, List.lookup_cons, ih]
  · -- it is a new file, which comes last
    show List.lookup other (folder.files ++ [(location, content)]) = List.lookup other folder.files
    rw [List.lookup_append, List.lookup_cons, hne, List.lookup_nil, Option.or_none]

end Folder

/-! ## How a session grows -/

namespace Session

/--
Statements and files were added, apart from what was entered in the log file. Which
directories there are stays as it was.
-/
structure Grows (before : Session) (written : Written) (after : Session) : Prop where
  output : after.output = before.output ++ written.output
  journal : after.journal = before.journal
  base : after.folder.base = before.folder.base
  directories : after.folder.directories = before.folder.directories
  files : ∀ location, (∀ journal ∈ before.journal, journal.location ≠ location) →
    after.folder.read? location = latest written.files location (before.folder.read? location)

/-- **What is added in a row is what was added first and then the rest.** -/
theorem Grows.trans {first second third : Session} {written more : Written}
    (h : Grows first written second) (h' : Grows second more third) :
    Grows first (written ++ more) third where
  output := by rw [h'.output, h.output, List.append_assoc, Written.output_append]
  journal := h'.journal.trans h.journal
  base := h'.base.trans h.base
  directories := h'.directories.trans h.directories
  files := by
    intro location hlocation
    -- the log file stays where it is, so it is elsewhere in the second part too
    have hsecond : ∀ journal ∈ second.journal, journal.location ≠ location := by
      rw [h.journal]
      exact hlocation
    rw [h'.files location hsecond, h.files location hlocation, Written.files_append, latest_append]

/-- Changing neither output nor folder adds nothing. -/
theorem grows_of_eq {before after : Session} (houtput : after.output = before.output)
    (hjournal : after.journal = before.journal) (hfolder : after.folder = before.folder) :
    Grows before {} after where
  output := by rw [houtput, List.append_nil]
  journal := hjournal
  base := by rw [hfolder]
  directories := by rw [hfolder]
  files := by
    intro location _
    rw [hfolder]
    rfl

@[simp] theorem grows_refl (session : Session) : Grows session {} session :=
  grows_of_eq rfl rfl rfl

/-- Statements that are written are added to the output and to nothing else. -/
theorem grows_output (session : Session) (statements : List Sql.Statement) :
    Grows session ⟨statements, []⟩ { session with output := session.output ++ statements } where
  output := rfl
  journal := rfl
  base := rfl
  directories := rfl
  files := fun _ _ => rfl

/-- A file that is put is the latest at its location, and the others stay as they are. -/
theorem grows_put (session : Session) (location : Location) (content : Bytes) :
    Grows session ⟨[], [(location, content)]⟩
      { session with folder := session.folder.put location content } where
  output := (List.append_nil _).symm
  journal := rfl
  base := Folder.base_put ..
  directories := Folder.directories_put ..
  files := by
    intro other _
    by_cases h : location = other
    · subst h
      rw [latest, List.foldl_cons, if_pos rfl]
      exact Folder.read?_put ..
    · rw [latest, List.foldl_cons, if_neg h]
      exact Folder.read?_put_of_ne _ h _

/-- Records go to the log file, if there is one. -/
theorem grows_logged (session : Session) (records : List Log.Record) :
    Grows session {} (session.logged records) := by
  obtain ⟨folder, calls, output, log, journal, pool, stats⟩ := session
  cases journal with
  | none => exact grows_of_eq rfl rfl rfl
  | some journal =>
    -- the log file is the only one that changes, and no statement is made about it
    refine ⟨(List.append_nil _).symm, rfl, Folder.base_put .., Folder.directories_put .., ?_⟩
    intro location hlocation
    exact Folder.read?_put_of_ne _ (hlocation journal rfl) _

/-- Only calls and records were added. -/
structure Asked (before after : Session) : Prop where
  grows : Grows before {} after
  pool : after.pool = before.pool
  stats : after.stats = before.stats

theorem Asked.refl (session : Session) : Asked session session :=
  ⟨grows_refl session, rfl, rfl⟩

/-- Questions in a row add no more than calls and records. -/
theorem Asked.trans {first second third : Session} (h : Asked first second)
    (h' : Asked second third) : Asked first third :=
  ⟨h.grows.trans h'.grows, h'.pool.trans h.pool, h'.stats.trans h.stats⟩

end Session

namespace Work

variable {α β : Type}

/-- Work of which it can be computed that it succeeds comes to some result. -/
theorem exists_start_eq_ok {work : Work α} {session : Session}
    (h : (start work session).1.isOk = true) :
    ∃ a, start work session = (.ok a, (start work session).2) := by
  cases houtcome : (start work session).1 with
  | ok a => exact ⟨a, Prod.ext houtcome rfl⟩
  | error failure =>
    rw [houtcome] at h
    cases h

/-- After a success, work goes on in the session that it left. -/
theorem start_bind_of_ok {work : Work α} {next : α → Work β} {session middle : Session} {a : α}
    (h : start work session = (.ok a, middle)) :
    start (work >>= next) session = start (next a) middle := by
  rw [start_bind, h]

/-- The work comes to the same outcome in every session, and it only asks. -/
structure Asks (work : Work α) (outcome : Except Failure α) : Prop where
  outcome : ∀ session, (start work session).1 = outcome
  asked : ∀ session : Session, session.Asked (start work session).2

/-- Whatever its outcome may be, the work only asks. -/
def IsQuestion (work : Work α) : Prop := ∃ outcome, Asks work outcome

/-- There is only one outcome of a question. -/
theorem Asks.unique {work : Work α} {outcome other : Except Failure α} (h : Asks work outcome)
    (h' : Asks work other) : outcome = other := by
  -- any session will do, since the outcome is the same in all of them
  let session : Session := { folder := { base := [] } }
  rw [← h.outcome session, ← h'.outcome session]

/-- What was computed beforehand is known without asking anybody. -/
theorem asks_ofResult (result : Except Failure α) : Asks (ofResult result) result where
  outcome := by
    intro session
    rw [start_ofResult]
  asked := by
    intro session
    rw [start_ofResult]
    exact .refl session

theorem asks_ofResult_of_eq {result outcome : Except Failure α} (h : result = outcome) :
    Asks (ofResult result) outcome := h ▸ asks_ofResult result

theorem asks_pure (a : α) : Asks (pure a : Work α) (.ok a) := asks_ofResult (.ok a)

theorem asks_throw (failure : Failure) : Asks (throw failure : Work α) (.error failure) :=
  asks_ofResult (.error failure)

theorem asks_call (c : Call) : Asks (call c) (.ok ()) where
  outcome := fun _ => rfl
  asked := fun _ => ⟨Session.grows_of_eq rfl rfl rfl, rfl, rfl⟩

/-- Logging is a question as well: what it leaves in the log file does not count as written. -/
theorem asks_record (records : List Log.Record) : Asks (record records) (.ok ()) where
  outcome := fun _ => rfl
  asked := fun session => ⟨Session.grows_logged session records, rfl, rfl⟩

theorem Asks.isQuestion {work : Work α} {outcome : Except Failure α} (h : Asks work outcome) :
    IsQuestion work := ⟨outcome, h⟩

/-- **A question and the one that its answer leads to are one question.** -/
theorem Asks.bind_ok {work : Work α} {next : α → Work β} {a : α} {outcome : Except Failure β}
    (h : Asks work (.ok a)) (h' : Asks (next a) outcome) : Asks (work >>= next) outcome where
  outcome := by
    intro session
    have hstart : start work session = (.ok a, (start work session).2) :=
      Prod.ext (h.outcome session) rfl
    rw [start_bind, hstart]
    exact h'.outcome _
  asked := by
    intro session
    have hstart : start work session = (.ok a, (start work session).2) :=
      Prod.ext (h.outcome session) rfl
    rw [start_bind, hstart]
    exact (h.asked session).trans (h'.asked _)

/-- A question that fails is the whole question. -/
theorem Asks.bind_error {work : Work α} {failure : Failure} (h : Asks work (.error failure))
    (next : α → Work β) : Asks (work >>= next) (.error failure) where
  outcome := by
    intro session
    have hstart : start work session = (.error failure, (start work session).2) :=
      Prod.ext (h.outcome session) rfl
    rw [start_bind, hstart]
  asked := by
    intro session
    have hstart : start work session = (.error failure, (start work session).2) :=
      Prod.ext (h.outcome session) rfl
    rw [start_bind, hstart]
    exact h.asked session

/-- What is asked in a row comes to the outcomes in a row, up to the form that they take. -/
theorem Asks.bind_map {work : Work α} {next : α → Work β} {γ : Type} {form : γ → α}
    {outcome : Except Failure γ} {outcomes : γ → Except Failure β}
    (h : Asks work (outcome.map form)) (h' : ∀ c, Asks (next (form c)) (outcomes c)) :
    Asks (work >>= next) (outcome >>= outcomes) := by
  cases outcome with
  | error failure => exact h.bind_error next
  | ok c => exact h.bind_ok (h' c)

/-- The same where the last outcome takes a form too. -/
theorem Asks.map_bind_map {work : Work α} {next : α → Work β} {γ δ : Type} {form : γ → α}
    {last : δ → β} {outcome : Except Failure γ} {outcomes : γ → Except Failure δ}
    (h : Asks work (outcome.map form)) (h' : ∀ c, Asks (next (form c)) ((outcomes c).map last)) :
    Asks (work >>= next) ((outcome >>= outcomes).map last) := by
  cases outcome with
  | error failure => exact h.bind_error next
  | ok c => exact h.bind_ok (h' c)

/-- **Work in a row only asks if its parts do, whatever the first of them is answered.** -/
theorem IsQuestion.bind {work : Work α} {next : α → Work β} (h : IsQuestion work)
    (h' : ∀ a, IsQuestion (next a)) : IsQuestion (work >>= next) := by
  obtain ⟨outcome, hwork⟩ := h
  cases outcome with
  | error failure => exact (hwork.bind_error next).isQuestion
  | ok a =>
    obtain ⟨result, hnext⟩ := h' a
    exact (hwork.bind_ok hnext).isQuestion

/-- What is done at the end leaves the outcome alone, unless it fails itself. -/
theorem Asks.andAlways {work : Work α} {last : Work Unit} {outcome : Except Failure α}
    (h : Asks work outcome) (h' : Asks last (.ok ())) : Asks (andAlways work last) outcome where
  outcome := by
    intro session
    rw [start_andAlways, h'.outcome]
    exact h.outcome session
  asked := by
    intro session
    rw [start_andAlways]
    exact (h.asked session).trans (h'.asked _)

theorem IsQuestion.mapM {f : α → Work β} (h : ∀ a, IsQuestion (f a)) (list : List α) :
    IsQuestion (list.mapM f) := by
  induction list with
  | nil => exact (asks_pure []).isQuestion
  | cons a list ih =>
    rw [List.mapM_cons]
    exact (h a).bind fun b => ih.bind fun bs => (asks_pure (b :: bs)).isQuestion

/-- A loop asks for the outcomes of its turns, up to the first one that fails. -/
theorem Asks.mapM_map {f : α → Work β} {γ : Type} {form : γ → α} {outcome : γ → Except Failure β}
    (h : ∀ c, Asks (f (form c)) (outcome c)) (list : List γ) :
    Asks ((list.map form).mapM f) (list.mapM outcome) := by
  induction list with
  | nil => exact asks_pure []
  | cons c list ih =>
    rw [List.map_cons, List.mapM_cons, List.mapM_cons]
    cases houtcome : outcome c with
    | error failure => exact (houtcome ▸ h c).bind_error _
    | ok b =>
      refine (houtcome ▸ h c).bind_ok ?_
      cases hrest : list.mapM outcome with
      | error failure => exact (hrest ▸ ih).bind_error _
      | ok bs => exact (hrest ▸ ih).bind_ok (asks_pure (b :: bs))

/-! What is known of the parts when the outcome of the whole is known. -/

/-- What was computed beforehand is the outcome that is known. -/
theorem eq_of_asks_ofResult {result outcome : Except Failure α}
    (h : Asks (ofResult result) outcome) : result = outcome :=
  (asks_ofResult result).unique h

/--
**A row that comes to its end has an answer in the middle.** It is the same in all sessions, so
the second part can be looked at without the session in which the first one was asked.
-/
theorem Asks.exists_of_bind {work : Work α} {next : α → Work β} {b : β}
    (h : Asks (work >>= next) (.ok b)) (hwork : IsQuestion work)
    (hnext : ∀ a, IsQuestion (next a)) : ∃ a, Asks work (.ok a) ∧ Asks (next a) (.ok b) := by
  obtain ⟨outcome, hwork⟩ := hwork
  cases outcome with
  | error failure =>
    -- then the row would fail too, but its outcome is known to be a success
    cases (hwork.bind_error next).unique h
  | ok a =>
    obtain ⟨result, hresult⟩ := hnext a
    obtain rfl := (hwork.bind_ok hresult).unique h
    exact ⟨a, hwork, hresult⟩

/-- A loop that comes to its end has an answer for each of its turns, in order. -/
theorem Asks.forall₂_of_mapM {f : α → Work β} (hf : ∀ a, IsQuestion (f a)) {list : List α}
    {results : List β} (h : Asks (list.mapM f) (.ok results)) :
    List.Forall₂ (fun a b => Asks (f a) (.ok b)) list results := by
  induction list generalizing results with
  | nil =>
    cases (asks_pure []).unique h
    exact .nil
  | cons a list ih =>
    rw [List.mapM_cons] at h
    obtain ⟨b, hb, h⟩ := h.exists_of_bind (hf a) fun b =>
      (IsQuestion.mapM hf list).bind fun bs => (asks_pure (b :: bs)).isQuestion
    obtain ⟨bs, hbs, h⟩ := h.exists_of_bind (IsQuestion.mapM hf list) fun bs =>
      (asks_pure (b :: bs)).isQuestion
    cases (asks_pure (b :: bs)).unique h
    exact .cons hb (ih hbs)

/-! ## What work leaves behind -/

/--
What the work adds in a session with a working directory: something that is `done` when it
comes to an end, and something that it `fails` with otherwise.
-/
def Leaves (base : Location) (work : Work α) (done : α → Written → Prop)
    (fails : Failure → Written → Prop) : Prop :=
  ∀ session : Session, session.folder.base = base →
    ∃ written, session.Grows written (start work session).2
      ∧ match (start work session).1 with
        | .ok a => done a written
        | .error failure => fails failure written

variable {base : Location} {work : Work α} {done : α → Written → Prop}
  {fails : Failure → Written → Prop}

/-! The judgement read for one run, which ended in one way or the other. -/

theorem Leaves.of_start_ok (h : Leaves base work done fails) {session after : Session} {a : α}
    (hbase : session.folder.base = base) (hstart : start work session = (.ok a, after)) :
    ∃ written, session.Grows written after ∧ done a written := by
  obtain ⟨written, hgrows, hdone⟩ := h session hbase
  rw [hstart] at hgrows hdone
  exact ⟨written, hgrows, hdone⟩

/-- It is enough to know less of what is left. -/
theorem Leaves.mono (h : Leaves base work done fails) {done' : α → Written → Prop}
    {fails' : Failure → Written → Prop} (hdone : ∀ a written, done a written → done' a written)
    (hfails : ∀ failure written, fails failure written → fails' failure written) :
    Leaves base work done' fails' := by
  intro session hbase
  obtain ⟨written, hgrows, h⟩ := h session hbase
  refine ⟨written, hgrows, ?_⟩
  generalize (start work session).1 = outcome at h ⊢
  cases outcome with
  | ok a => exact hdone a written h
  | error failure => exact hfails failure written h

/-- **Work in a row leaves what its parts leave, in a row.** -/
theorem Leaves.bind (h : Leaves base work done fails) {next : α → Work β}
    {done' : β → Written → Prop} {fails' : Failure → Written → Prop}
    (hfails : ∀ failure written, fails failure written → fails' failure written)
    (hnext : ∀ a written, done a written → Leaves base (next a)
      (fun b more => done' b (written ++ more))
      (fun failure more => fails' failure (written ++ more))) :
    Leaves base (work >>= next) done' fails' := by
  intro session hbase
  obtain ⟨written, hgrows, h⟩ := h session hbase
  rw [start_bind]
  generalize start work session = ended at hgrows h
  obtain ⟨outcome, middle⟩ := ended
  cases outcome with
  | error failure => exact ⟨written, hgrows, hfails failure written h⟩
  | ok a =>
    -- the working directory is still the same when the second part begins
    obtain ⟨more, hmore, h'⟩ := hnext a written h middle (hgrows.base.trans hbase)
    exact ⟨written ++ more, hgrows.trans hmore, h'⟩

/-- What only asks leaves nothing. -/
theorem IsQuestion.leaves (h : IsQuestion work) (base : Location) :
    Leaves base work (fun a written => Asks work (.ok a) ∧ written = {})
      (fun failure written => Asks work (.error failure) ∧ written = {}) := by
  obtain ⟨outcome, hwork⟩ := h
  intro session _
  refine ⟨{}, (hwork.asked session).grows, ?_⟩
  rw [hwork.outcome session]
  cases outcome with
  | ok a => exact ⟨hwork, rfl⟩
  | error failure => exact ⟨hwork, rfl⟩

/-- After a question, what follows its answer adds all. -/
theorem IsQuestion.leaves_bind (h : IsQuestion work) {next : α → Work β}
    {done' : β → Written → Prop}
    (hfails : ∀ failure, Asks work (.error failure) → fails failure {})
    (hnext : ∀ a, Asks work (.ok a) → Leaves base (next a) done' fails) :
    Leaves base (work >>= next) done' fails := by
  refine (h.leaves base).bind ?_ ?_
  · rintro failure written ⟨hwork, rfl⟩
    exact hfails failure hwork
  · rintro a written ⟨hwork, rfl⟩
    exact hnext a hwork

/-- A question whose answer is known can be left out. -/
theorem Asks.leaves_bind {a : α} (h : Asks work (.ok a)) {next : α → Work β}
    {done' : β → Written → Prop} (hnext : Leaves base (next a) done' fails) :
    Leaves base (work >>= next) done' fails := by
  refine h.isQuestion.leaves_bind ?_ ?_
  · intro failure hfailure
    cases h.unique hfailure
  · intro b hb
    cases h.unique hb
    exact hnext

theorem leaves_pure (a : α) (h : done a {}) : Leaves base (pure a) done fails := by
  intro session _
  exact ⟨{}, Session.grows_refl session, h⟩

theorem leaves_throw (failure : Failure) (h : fails failure {}) :
    Leaves base (throw failure : Work α) done fails := by
  intro session _
  exact ⟨{}, Session.grows_refl session, h⟩

/-- Work after a change of the session that is known beforehand. -/
theorem Leaves.of_modify {change : Session → Session} {written : Written} {next : Work α}
    (h : ∀ session : Session, session.Grows written (change session))
    (hnext : Leaves base next (fun a more => done a (written ++ more))
      (fun failure more => fails failure (written ++ more))) :
    Leaves base (do modify change; next) done fails := by
  intro session hbase
  have hbase' : (change session).folder.base = base := (h session).base.trans hbase
  obtain ⟨more, hgrows, hends⟩ := hnext (change session) hbase'
  exact ⟨written ++ more, (h session).trans hgrows, hends⟩

/-- Work after a change that touches neither output nor folder. -/
theorem Leaves.of_aside {change : Session → Session} {next : Work α}
    (h : ∀ session : Session, session.Grows {} (change session))
    (hnext : Leaves base next done fails) : Leaves base (do modify change; next) done fails :=
  .of_modify h hnext

/-! The changes of a session that a dump makes, each before the work that follows. -/

theorem Leaves.of_count (change : DumpStats → DumpStats) {next : Work α}
    (hnext : Leaves base next done fails) : Leaves base (do count change; next) done fails :=
  .of_aside (fun _ => Session.grows_of_eq rfl rfl rfl) hnext

theorem Leaves.of_emitAll (statements : List Sql.Statement) {next : Work α}
    (hnext : Leaves base next (fun a more => done a (⟨statements, []⟩ ++ more))
      (fun failure more => fails failure (⟨statements, []⟩ ++ more))) :
    Leaves base (do emitAll statements; next) done fails :=
  .of_modify (fun session => session.grows_output statements) hnext

theorem Leaves.of_emit (statement : Sql.Statement) {next : Work α}
    (hnext : Leaves base next (fun a more => done a (⟨[statement], []⟩ ++ more))
      (fun failure more => fails failure (⟨[statement], []⟩ ++ more))) :
    Leaves base (do emit statement; next) done fails :=
  .of_emitAll [statement] hnext

theorem leaves_count (change : DumpStats → DumpStats) {done : Unit → Written → Prop}
    (h : done () {}) : Leaves base (count change) done fails := by
  intro session _
  exact ⟨{}, Session.grows_of_eq rfl rfl rfl, h⟩

theorem leaves_emit (statement : Sql.Statement) {done : Unit → Written → Prop}
    (h : done () ⟨[statement], []⟩) : Leaves base (emit statement) done fails := by
  intro session _
  exact ⟨⟨[statement], []⟩, session.grows_output [statement], h⟩

/--
**A loop leaves what its turns leave.** When it fails, the turns before the one that
failed are complete, and none came after it.
-/
theorem Leaves.mapM {list : List α} {f : α → Work β} {done : α → Written → Prop}
    {fails : α → Failure → Written → Prop}
    (h : ∀ a ∈ list, Leaves base (f a) (fun _ => done a) (fails a)) :
    Leaves base (list.mapM f)
      (fun _ written => ∃ pieces, List.Forall₂ done list pieces ∧ written = .join pieces)
      (fun failure written => ∃ front a back pieces last, list = front ++ a :: back
        ∧ List.Forall₂ done front pieces ∧ fails a failure last
        ∧ written = .join pieces ++ last) := by
  induction list with
  | nil =>
    rw [List.mapM_nil]
    exact leaves_pure [] ⟨[], .nil, rfl⟩
  | cons a list ih =>
    rw [List.mapM_cons]
    refine (h a (by simp)).bind ?_ ?_
    · -- the first turn fails, so there is no complete one before it
      intro failure last hlast
      exact ⟨[], a, list, [], last, rfl, .nil, hlast, rfl⟩
    · intro b piece hpiece
      refine (ih fun c hc => h c (List.mem_cons_of_mem _ hc)).bind ?_ ?_
      · rintro failure written ⟨front, c, back, pieces, last, rfl, hpieces, hlast, rfl⟩
        refine ⟨a :: front, c, back, piece :: pieces, last, rfl, .cons hpiece hpieces, hlast, ?_⟩
        rw [Written.join_cons, Written.append_assoc]
      · rintro bs written ⟨pieces, hpieces, rfl⟩
        refine leaves_pure (b :: bs) ⟨piece :: pieces, .cons hpiece hpieces, ?_⟩
        rw [Written.append_nil, Written.join_cons]

/-- A loop for its effect runs like one that collects. -/
theorem start_forM (f : α → Work Unit) (list : List α) (session : Session) :
    start (list.forM f) session
      = ((start (list.mapM f) session).1.map fun _ => (), (start (list.mapM f) session).2) := by
  induction list generalizing session with
  | nil => rfl
  | cons a list ih =>
    have hforM : List.forM (a :: list) f = (f a >>= fun _ => list.forM f) := rfl
    rw [hforM, List.mapM_cons, start_bind, start_bind]
    rcases start (f a) session with ⟨_ | _, middle⟩
    · rfl
    · dsimp only
      rw [ih, start_bind]
      rcases start (list.mapM f) middle with ⟨_ | _, after⟩
      · rfl
      · rfl

/-- What a loop for its effect leaves does not depend on results that nobody looks at. -/
theorem Leaves.forM {list : List α} {f : α → Work Unit} {done : Written → Prop}
    (h : Leaves base (list.mapM f) (fun _ => done) fails) :
    Leaves base (list.forM f) (fun _ => done) fails := by
  intro session hbase
  obtain ⟨written, hgrows, h⟩ := h session hbase
  rw [start_forM]
  refine ⟨written, hgrows, ?_⟩
  generalize (start (list.mapM f) session).1 = outcome at h ⊢
  cases outcome with
  | ok _ => exact h
  | error failure => exact h

end Work

end DatabaseDump
