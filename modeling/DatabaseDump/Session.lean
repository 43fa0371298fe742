import DatabaseDump.Dump.Stats
import DatabaseDump.Log.File
import DatabaseDump.Pool
import DatabaseDump.Server
import DatabaseDump.Sql.Statement

/-!
# Sessions

A session is what a dump leaves behind while it works: the calls it made, the
statements it wrote, the files, the log and the counts. Work in a session may fail, and
what it did until then stays done. The lemmas say what each piece of work makes of the
session that it starts in; logging touches the log and, if there is one, the log file.

The stream that statements are written to is assumed to take every write in full, so
writing a statement (`Work.emit`) never fails: no pipe is closed and no disk is full. The
same is assumed of a side file and of the log file once they are open.
-/

namespace DatabaseDump

/-- The traces of a dump. -/
structure Session where
  folder : Folder
  calls : List Call := []
  output : List Sql.Statement := []
  log : List Log.Record := []
  /-- The log file, if there is one. -/
  journal : Option Log.Journal := none
  pool : Pool := {}
  stats : DumpStats := {}

namespace Session

/-- The session after some records were logged. -/
def logged (session : Session) (records : List Log.Record) : Session :=
  { session with
    log := session.log ++ records
    folder := match session.journal with
      | none => session.folder
      | some journal => journal.enter records session.folder }

@[simp] theorem log_logged (session : Session) (records : List Log.Record) :
    (session.logged records).log = session.log ++ records := rfl

@[simp] theorem calls_logged (session : Session) (records : List Log.Record) :
    (session.logged records).calls = session.calls := rfl

@[simp] theorem output_logged (session : Session) (records : List Log.Record) :
    (session.logged records).output = session.output := rfl

@[simp] theorem journal_logged (session : Session) (records : List Log.Record) :
    (session.logged records).journal = session.journal := rfl

@[simp] theorem pool_logged (session : Session) (records : List Log.Record) :
    (session.logged records).pool = session.pool := rfl

@[simp] theorem stats_logged (session : Session) (records : List Log.Record) :
    (session.logged records).stats = session.stats := rfl

end Session

/-- What is done in a session. It may fail, without undoing what it did. -/
abbrev Work (α : Type) := ExceptT Failure (StateM Session) α

namespace Work

/-- Does the work: its outcome and the session after it. -/
def start {α : Type} (work : Work α) (session : Session) : Except Failure α × Session :=
  (ExceptT.run work).run session

/-- Enters a call on the server. -/
def call (c : Call) : Work Unit :=
  modify fun session => { session with calls := session.calls ++ [c] }

/-- Writes a statement. -/
def emit (statement : Sql.Statement) : Work Unit :=
  modify fun session => { session with output := session.output ++ [statement] }

/-- Writes statements in order. -/
def emitAll (statements : List Sql.Statement) : Work Unit :=
  modify fun session => { session with output := session.output ++ statements }

/-- Adds records to the log. -/
def record (records : List Log.Record) : Work Unit :=
  modify fun session => session.logged records

/-- Logs one message. -/
def note (level : Log.Level) (message : String) : Work Unit := record [⟨level, message⟩]

/-- Changes the counts. -/
def count (change : DumpStats → DumpStats) : Work Unit :=
  modify fun session => { session with stats := change session.stats }

/-- The value of a computation, or its failure. -/
def ofResult {α : Type} : Except Failure α → Work α
  | .ok a => pure a
  | .error failure => throw failure

/-- Does the second work after the first one, even if that fails. -/
def andAlways {α : Type} (work : Work α) (last : Work Unit) : Work α := ExceptT.mk do
  let outcome ← ExceptT.run work
  let ended ← ExceptT.run last
  return match ended with
    | .ok _ => outcome
    | .error failure => .error failure

theorem start_bind {α β : Type} (work : Work α) (next : α → Work β) (session : Session) :
    start (work >>= next) session = match start work session with
      | (.ok a, session) => start (next a) session
      | (.error failure, session) => (.error failure, session) := by
  have h : start (work >>= next) session
      = (ExceptT.bindCont next (start work session).1).run (start work session).2 := rfl
  rw [h]
  rcases start work session with ⟨_ | _, _⟩ <;> rfl

@[simp] theorem start_pure {α : Type} (a : α) (session : Session) :
    start (pure a) session = (.ok a, session) := rfl

@[simp] theorem start_throw {α : Type} (failure : Failure) (session : Session) :
    start (throw failure : Work α) session = (.error failure, session) := rfl

@[simp] theorem start_get (session : Session) :
    start (get : Work Session) session = (.ok session, session) := rfl

@[simp] theorem start_modify (change : Session → Session) (session : Session) :
    start (modify change : Work Unit) session = (.ok (), change session) := rfl

@[simp] theorem start_call (c : Call) (session : Session) :
    start (call c) session = (.ok (), { session with calls := session.calls ++ [c] }) := rfl

@[simp] theorem start_emit (statement : Sql.Statement) (session : Session) :
    start (emit statement) session
      = (.ok (), { session with output := session.output ++ [statement] }) := rfl

@[simp] theorem start_emitAll (statements : List Sql.Statement) (session : Session) :
    start (emitAll statements) session
      = (.ok (), { session with output := session.output ++ statements }) := rfl

@[simp] theorem start_note (level : Log.Level) (message : String) (session : Session) :
    start (note level message) session = (.ok (), session.logged [⟨level, message⟩]) := rfl

@[simp] theorem start_count (change : DumpStats → DumpStats) (session : Session) :
    start (count change) session
      = (.ok (), { session with stats := change session.stats }) := rfl

@[simp] theorem start_ofResult {α : Type} (result : Except Failure α) (session : Session) :
    start (ofResult result) session = (result, session) := by
  cases result <;> rfl

theorem start_andAlways {α : Type} (work : Work α) (last : Work Unit) (session : Session) :
    start (andAlways work last) session
      = ((match (start last (start work session).2).1 with
          | .ok _ => (start work session).1
          | .error failure => .error failure),
        (start last (start work session).2).2) := rfl

end Work

end DatabaseDump
