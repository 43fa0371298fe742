import DatabaseDump.Dump.Plan
import DatabaseDump.Proofs.Effects
import DatabaseDump.Proofs.ViewOrder

/-!
# What planning asks and logs

Everything that is looked up before something is written is a question: queries, the catalog,
the plan of a database. `Traces` says more of a question than what it comes to: which calls it
makes and which records it logs, whatever the session. It adds up over two questions in a row.

Planning only looks things up. Its calls are plain queries in a row, each with a cursor of its
own that is closed before the next one is opened, and all that it logs are warnings. `IsLookup`
is that judgement, and it is derived once for each function of planning. What others need of
these functions is read off it: that they are questions (`IsLookup.isQuestion`), and that the
answer of a question comes about by plain queries (`IsLookup.of_asks`).
-/

namespace DatabaseDump

open Work

/-! ## Calls and records of a question -/

namespace Work

variable {α β : Type}

/-- A question that always makes these calls and logs these records. -/
structure Traces (work : Work α) (outcome : Except Failure α) (calls : List Call)
    (records : List Log.Record) : Prop extends Asks work outcome where
  calls : ∀ session, (start work session).2.calls = session.calls ++ calls
  log : ∀ session, (start work session).2.log = session.log ++ records

/-- What was computed beforehand needs no call. -/
theorem traces_ofResult (result : Except Failure α) : Traces (ofResult result) result [] [] where
  toAsks := asks_ofResult result
  calls := fun session => by rw [start_ofResult, List.append_nil]
  log := fun session => by rw [start_ofResult, List.append_nil]

theorem traces_pure (a : α) : Traces (pure a : Work α) (.ok a) [] [] :=
  traces_ofResult (.ok a)

theorem traces_call (c : Call) : Traces (call c) (.ok ()) [c] [] where
  toAsks := asks_call c
  calls := fun _ => rfl
  log := fun _ => (List.append_nil _).symm

theorem traces_record (records : List Log.Record) :
    Traces (record records) (.ok ()) [] records where
  toAsks := asks_record records
  calls := fun _ => (List.append_nil _).symm
  log := fun _ => rfl

section
variable {work : Work α} {outcome : Except Failure α} {calls more : List Call}
  {records others : List Log.Record}

theorem Traces.start_eq (h : Traces work outcome calls records) (session : Session) :
    start work session = (outcome, (start work session).2) :=
  Prod.ext (h.outcome session) rfl

/-- **In a row, calls follow calls and records follow records.** -/
theorem Traces.bind_ok {a : α} {next : α → Work β} {result : Except Failure β}
    (h : Traces work (.ok a) calls records) (h' : Traces (next a) result more others) :
    Traces (work >>= next) result (calls ++ more) (records ++ others) where
  toAsks := h.toAsks.bind_ok h'.toAsks
  calls := by
    intro session
    rw [start_bind, h.start_eq, ← List.append_assoc, ← h.calls]
    exact h'.calls _
  log := by
    intro session
    rw [start_bind, h.start_eq, ← List.append_assoc, ← h.log]
    exact h'.log _

/-- What would come after a failure is not even asked. -/
theorem Traces.bind_error {failure : Failure} (h : Traces work (.error failure) calls records)
    (next : α → Work β) : Traces (work >>= next) (.error failure) calls records where
  toAsks := h.toAsks.bind_error next
  calls := by
    intro session
    rw [start_bind, h.start_eq]
    exact h.calls session
  log := by
    intro session
    rw [start_bind, h.start_eq]
    exact h.log session

/-- What follows without a call or a record only takes the outcome further. -/
theorem Traces.bind_aside {next : α → Work β} {outcomes : α → Except Failure β}
    (h : Traces work outcome calls records) (h' : ∀ a, Traces (next a) (outcomes a) [] []) :
    Traces (work >>= next) (outcome >>= outcomes) calls records := by
  cases outcome with
  | error failure => exact h.bind_error next
  | ok a =>
    have hnext : Traces (work >>= next) (outcomes a) (calls ++ []) (records ++ []) :=
      h.bind_ok (h' a)
    rwa [List.append_nil, List.append_nil] at hnext

/-- What is done at the end is called and logged at the end. -/
theorem Traces.andAlways {last : Work Unit} (h : Traces work outcome calls records)
    (h' : Traces last (.ok ()) more others) :
    Traces (Work.andAlways work last) outcome (calls ++ more) (records ++ others) where
  toAsks := h.toAsks.andAlways h'.toAsks
  calls := by
    intro session
    rw [start_andAlways, ← List.append_assoc, ← h.calls]
    exact h'.calls _
  log := by
    intro session
    rw [start_andAlways, ← List.append_assoc, ← h.log]
    exact h'.log _

end

end Work

/-! ## Lookups -/

/-- The calls of plain queries in a row. -/
inductive AreQueries : List Call → Prop
  | nil : AreQueries []
  | query (text : String) (parameters : Option (List Value)) {calls : List Call}
      (h : AreQueries calls) :
      AreQueries (.openCursor false :: .execute text parameters :: .closeCursor :: calls)

/-- Each query closes its cursor, so queries may follow queries. -/
theorem AreQueries.append {calls more : List Call} (h : AreQueries calls)
    (h' : AreQueries more) : AreQueries (calls ++ more) := by
  induction h with
  | nil => exact h'
  | query text parameters _ ih => exact .query text parameters ih

/-- No plain query opens a raw cursor. -/
theorem AreQueries.openCursor_not_mem {calls : List Call} (h : AreQueries calls) :
    .openCursor true ∉ calls := by
  induction h with
  | nil => exact List.not_mem_nil
  | query text parameters _ ih => simpa using ih

namespace Work

variable {α β : Type} {work : Work α} {outcome : Except Failure α}

/-- The work comes to an outcome by plain queries, and it logs nothing but warnings. -/
def LooksUp (work : Work α) (outcome : Except Failure α) : Prop :=
  ∃ calls records, Traces work outcome calls records ∧ AreQueries calls
    ∧ ∀ record ∈ records, record.level = .warning

/-- Whatever its outcome may be, the work only looks something up. -/
def IsLookup (work : Work α) : Prop := ∃ outcome, LooksUp work outcome

theorem LooksUp.isLookup (h : LooksUp work outcome) : IsLookup work := ⟨outcome, h⟩

/-- **What only looks something up is a question.** -/
theorem IsLookup.isQuestion (h : IsLookup work) : IsQuestion work := by
  obtain ⟨outcome, calls, records, htraces, -⟩ := h
  exact htraces.toAsks.isQuestion

/-- A question that is a lookup comes to its answer as a lookup. -/
theorem IsLookup.of_asks (h : IsLookup work) (h' : Asks work outcome) : LooksUp work outcome := by
  obtain ⟨found, calls, records, htraces, hplain⟩ := h
  -- there is only one answer, so it is the one that was looked up
  obtain rfl : found = outcome := htraces.toAsks.unique h'
  exact ⟨calls, records, htraces, hplain⟩

/-! The rules for work in a row and for loops. -/

theorem looksUp_ofResult (result : Except Failure α) : LooksUp (ofResult result) result :=
  ⟨[], [], traces_ofResult result, .nil, by simp⟩

theorem looksUp_pure (a : α) : LooksUp (pure a : Work α) (.ok a) := looksUp_ofResult (.ok a)

/-- Warnings may be given while something is looked up. -/
theorem looksUp_record {records : List Log.Record}
    (h : ∀ record ∈ records, record.level = .warning) : LooksUp (record records) (.ok ()) :=
  ⟨[], records, traces_record records, .nil, h⟩

/-- **Lookups in a row are a lookup.** -/
theorem LooksUp.bind_ok {a : α} {next : α → Work β} {result : Except Failure β}
    (h : LooksUp work (.ok a)) (h' : LooksUp (next a) result) :
    LooksUp (work >>= next) result := by
  obtain ⟨calls, records, htraces, hqueries, hwarnings⟩ := h
  obtain ⟨more, others, htraces', hqueries', hwarnings'⟩ := h'
  exact ⟨calls ++ more, records ++ others, htraces.bind_ok htraces', hqueries.append hqueries',
    List.forall_mem_append.mpr ⟨hwarnings, hwarnings'⟩⟩

theorem LooksUp.bind_error {failure : Failure} (h : LooksUp work (.error failure))
    (next : α → Work β) : LooksUp (work >>= next) (.error failure) := by
  obtain ⟨calls, records, htraces, hqueries, hwarnings⟩ := h
  exact ⟨calls, records, htraces.bind_error next, hqueries, hwarnings⟩

/-- Where the outcome is known, only what follows it has to be a lookup. -/
theorem LooksUp.isLookup_bind {a : α} {next : α → Work β} (h : LooksUp work (.ok a))
    (h' : IsLookup (next a)) : IsLookup (work >>= next) := by
  obtain ⟨result, hnext⟩ := h'
  exact (h.bind_ok hnext).isLookup

/-- **Work in a row is a lookup if its parts are, whatever the first of them comes to.** -/
theorem IsLookup.bind {next : α → Work β} (h : IsLookup work) (h' : ∀ a, IsLookup (next a)) :
    IsLookup (work >>= next) := by
  obtain ⟨outcome, hwork⟩ := h
  cases outcome with
  | error failure => exact (hwork.bind_error next).isLookup
  | ok a => exact hwork.isLookup_bind (h' a)

theorem IsLookup.mapM {f : α → Work β} (h : ∀ a, IsLookup (f a)) (list : List α) :
    IsLookup (list.mapM f) := by
  induction list with
  | nil => exact (looksUp_pure []).isLookup
  | cons a list ih =>
    rw [List.mapM_cons]
    exact (h a).bind fun b => ih.bind fun bs => (looksUp_pure (b :: bs)).isLookup

end Work

/-! ## Queries -/

namespace Connection

/-- The rows with which a server answers a query. -/
def reply (server : Server) (query : String) (parameters : Value := .null) :
    Except Failure (List (List Value)) := do
  (← server.answer query parameters).rows

/-- What a server streams when it is asked for rows: the columns, and the rows as they come. -/
def streamed (server : Server) (query : String) :
    Except Failure (List Column × RowSource Failure) := do
  let answer ← server.answer query .null
  return (← answer.headings.mapM Column.ofCells, answer.stream)

section
variable {parameters : Value} {list : Option (List Value)}

/-- Where the parameters are a list, executing a query is one call. -/
theorem traces_execute (server : Server) (text : String)
    (hlist : parameterList parameters = .ok list) :
    Traces (execute server text parameters) (server.answer text parameters)
      [.execute text list] [] := by
  have hparameters : Traces (ofResult (parameterList parameters)) (.ok list) [] [] :=
    hlist ▸ traces_ofResult _
  refine hparameters.bind_ok ?_
  exact (traces_call (.execute text list)).bind_ok (traces_ofResult _)

/-- A plain query comes to the reply of the server, with a cursor that is closed in any case. -/
theorem traces_query (server : Server) (text : String)
    (hlist : parameterList parameters = .ok list) :
    Traces (query server text parameters) (reply server text parameters)
      [.openCursor false, .execute text list, .closeCursor] [] := by
  have hfetch : Traces (fetch server text parameters) (reply server text parameters)
      [.execute text list] [] :=
    (traces_execute server text hlist).bind_aside fun answer => traces_ofResult answer.rows
  exact (traces_call (.openCursor false)).bind_ok (hfetch.andAlways (traces_call .closeCursor))

/-- What a plain query comes to is known from the server alone. -/
theorem asks_query (server : Server) (text : String)
    (hlist : parameterList parameters = .ok list) :
    Asks (query server text parameters) (reply server text parameters) :=
  (traces_query server text hlist).toAsks

theorem isLookup_query (server : Server) (text : String)
    (hlist : parameterList parameters = .ok list) : IsLookup (query server text parameters) :=
  ⟨_, _, _, traces_query server text hlist, .query text list .nil, by simp⟩

end

/-- A stream opens its cursor and leaves it open, whether the query is answered or not. -/
theorem traces_stream (server : Server) (text : String) :
    Traces (stream server text) (streamed server text) [.openCursor true, .execute text none]
      [] := by
  refine (traces_call (.openCursor true)).bind_ok ?_
  refine (traces_execute server text rfl).bind_aside fun answer => ?_
  exact (traces_ofResult _).bind_aside fun columns => traces_pure (columns, answer.stream)

/-- A stream is a question too, but no lookup: its cursor is a raw one. -/
theorem isQuestion_stream (server : Server) (text : String) :
    IsQuestion (stream server text) :=
  (traces_stream server text).toAsks.isQuestion

end Connection

/-! ## Planning is a lookup -/

namespace Catalog

/-- A query the rows of which are read. Most of what is asked of the catalog has this form. -/
theorem isLookup_readQuery {α : Type} (server : Server) (text : String) {parameters : Value}
    {list : Option (List Value)} (hlist : parameterList parameters = .ok list)
    (read : List (List Value) → Except Failure α) :
    IsLookup (do ofResult (read (← Connection.query server text parameters))) :=
  (Connection.isLookup_query server text hlist).bind fun rows =>
    (looksUp_ofResult (read rows)).isLookup

theorem isLookup_databases (server : Server) : IsLookup (databases server) :=
  isLookup_readQuery server _ rfl _

theorem isLookup_databaseType (server : Server) (database : Value) (sysAccount : Bool) :
    IsLookup (databaseType server database sysAccount) :=
  isLookup_readQuery server _ rfl _

theorem isLookup_databaseCreation (server : Server) (database : Value) :
    IsLookup (databaseCreation server database) :=
  isLookup_readQuery server _ rfl _

theorem isLookup_tableCreation (server : Server) (database table : Value) :
    IsLookup (tableCreation server database table) :=
  isLookup_readQuery server _ rfl _

/-- Requested tables are looked for among those that were found, which asks nothing more. -/
theorem isLookup_checkRequested (tables : List Table) (requested : Value) :
    IsLookup (do
      ofResult (checkRequested tables requested)
      return tables) :=
  (looksUp_ofResult _).isLookup.bind fun _ => (looksUp_pure tables).isLookup

/-- The names that are requested go into the query, so they are read before it. -/
theorem isLookup_tables (server : Server) (database requested : Value) (sysAccount : Bool) :
    IsLookup (tables server database requested sysAccount) := by
  refine (looksUp_ofResult _).isLookup.bind fun names => ?_
  refine (Connection.isLookup_query _ _ rfl).bind fun rows => ?_
  refine (looksUp_ofResult _).isLookup.bind fun tables => ?_
  exact isLookup_checkRequested tables requested

theorem isLookup_subscriptionTables (server : Server) (database requested : Value) :
    IsLookup (subscriptionTables server database requested) := by
  refine (Connection.isLookup_query _ _ rfl).bind fun rows => ?_
  refine (looksUp_ofResult _).isLookup.bind fun names => ?_
  refine (looksUp_ofResult _).isLookup.bind fun names => ?_
  exact isLookup_checkRequested _ requested

end Catalog

/-- All that is said about an order are warnings. -/
theorem ViewOrder.level_of_mem_warnings {stuck : List Definition} {records : List Log.Record}
    (h : ViewOrder.warnings stuck = .ok records) : ∀ record ∈ records, record.level = .warning := by
  unfold ViewOrder.warnings at h
  split at h
  · -- no view is stuck, so nothing is said
    cases h
    simp
  · cases hnames : ViewOrder.listedNames stuck with
    | error failure =>
      rw [hnames] at h
      cases h
    | ok names =>
      rw [hnames] at h
      cases h
      simp [ViewOrder.warning]

namespace Dump.Plan

/-- Databases that are listed in the options need not be asked for. -/
theorem isLookup_databases (server : Server) (options : Options) :
    IsLookup (databases server options) := by
  unfold databases
  split
  · exact Catalog.isLookup_databases server
  · exact (looksUp_ofResult _).isLookup

theorem isLookup_tables (server : Server) (options : Options) (database type : Value) :
    IsLookup (tables server options database type) := by
  unfold tables
  split
  · exact Catalog.isLookup_subscriptionTables ..
  · exact Catalog.isLookup_tables ..

/-- What creates a table is looked up when its kind is known. -/
theorem isLookup_define (server : Server) (database : Value) (table : Table) :
    IsLookup (define server database table) := by
  -- the kind comes first: what creates a table of an unknown kind is not asked
  refine (looksUp_ofResult _).isLookup.bind fun kind => ?_
  refine (Catalog.isLookup_tableCreation ..).bind fun creation => ?_
  exact (looksUp_pure _).isLookup

/-- When all definitions can be searched, they are put into the order that was found. -/
theorem arrange_eq (definitions : List Definition) :
    arrange definitions = match ViewOrder.unsearchable? definitions with
      | some failure => throw failure
      | none => do
        record (← ofResult (ViewOrder.warnings
          (ViewOrder.pick definitions (ViewOrder.stuckViews ViewOrder.mentions definitions))))
        return ViewOrder.pick definitions
          (ViewOrder.positions ViewOrder.mentions definitions).1 := by
  unfold arrange
  cases ViewOrder.unsearchable? definitions with
  | none => rfl
  | some failure => rfl

/-- An order is found without a call, and with warnings about the views that are stuck. -/
theorem isLookup_arrange (definitions : List Definition) : IsLookup (arrange definitions) := by
  rw [arrange_eq]
  split
  · exact ⟨_, looksUp_ofResult (.error _)⟩
  · cases hwarnings : ViewOrder.warnings
      (ViewOrder.pick definitions (ViewOrder.stuckViews ViewOrder.mentions definitions)) with
    | error failure => exact ((looksUp_ofResult (.error failure)).bind_error _).isLookup
    | ok records =>
      have hrecord := looksUp_record (ViewOrder.level_of_mem_warnings hwarnings)
      refine (looksUp_ofResult (.ok records)).isLookup_bind (hrecord.isLookup.bind fun _ => ?_)
      exact (looksUp_pure _).isLookup

/-- What is left of a plan when the type and the tables of the database are known. -/
theorem isLookup_arrangeAll (server : Server) (database type : Value) (tables : List Table) :
    IsLookup (do
      let definitions ← tables.mapM (define server database)
      return (⟨type, ← arrange definitions⟩ : Plan)) := by
  refine (IsLookup.mapM (isLookup_define server database) tables).bind fun definitions => ?_
  refine (isLookup_arrange definitions).bind fun arranged => ?_
  exact (looksUp_pure _).isLookup

/-- **A database is planned by plain queries, and all that is logged are warnings.** -/
theorem isLookup_make (server : Server) (options : Options) (database : Value) :
    IsLookup (make server options database) := by
  refine (Catalog.isLookup_databaseType ..).bind fun type => ?_
  refine (isLookup_tables ..).bind fun tables => ?_
  exact isLookup_arrangeAll server database type tables

end Dump.Plan

end DatabaseDump
