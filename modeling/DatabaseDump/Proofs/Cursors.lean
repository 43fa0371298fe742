import DatabaseDump.Proofs.Accounts
import DatabaseDump.Proofs.Lookups

/-!
# Cursors

A server answers on one cursor at a time. A cursor that is still open when the next one is
opened breaks the connection, and a stream leaves its cursor to whoever reads the rows.

All calls of a dump are uses of cursors in a row, each of them closed before the next one
begins. `Uses` says so of work, with one rule for two pieces of work in a row and one for a
loop, and only a dump that fails may end in a cursor that was opened for a stream and never
read. What a trace of this form keeps, `KeepsCursors`, does not mention the uses any more.
-/

namespace DatabaseDump

open Work

/-! ## Uses in a row -/

/-- One use of a cursor, for rows that are fetched at once or for a stream that is read. -/
inductive CursorUse where
  | fetch (text : String) (parameters : Option (List Value))
  | stream (query : String)

namespace CursorUse

/-- The cursor is opened, executes its query and is closed. -/
def calls : CursorUse → List Call
  | fetch text parameters => [.openCursor false, .execute text parameters, .closeCursor]
  | stream query => [.openCursor true, .execute query none, .closeCursor]

/-- The query of a stream. -/
def streamed? : CursorUse → Option String
  | fetch _ _ => none
  | stream query => some query

end CursorUse

/-- The calls on a cursor that was opened for a stream and is still open. -/
def unreadStream (query : String) : List Call := [.openCursor true, .execute query none]

/-- Whether a call opens a cursor. -/
def Call.opens : Call → Bool
  | .openCursor _ => true
  | _ => false

/-- How many cursors were opened. -/
def countOpened (calls : List Call) : Nat := calls.countP Call.opens

/-- How many cursors were closed. -/
def countClosed (calls : List Call) : Nat := calls.count .closeCursor

@[simp] theorem countOpened_use (raw : Bool) (text : String) (parameters : Option (List Value))
    (calls : List Call) :
    countOpened (.openCursor raw :: .execute text parameters :: .closeCursor :: calls)
      = countOpened calls + 1 := by
  simp [countOpened, List.countP_cons, Call.opens]

@[simp] theorem countClosed_use (raw : Bool) (text : String) (parameters : Option (List Value))
    (calls : List Call) :
    countClosed (.openCursor raw :: .execute text parameters :: .closeCursor :: calls)
      = countClosed calls + 1 := by
  simp [countClosed]

/--
At no time two cursors are open. A cursor for loose values is opened, executes once and is
closed, with no other call in between. One for a stream executes once, and it is closed by the
next call if there is one.
-/
structure KeepsCursors (calls : List Call) : Prop where
  one : ∀ front, front <+: calls →
    countClosed front ≤ countOpened front ∧ countOpened front ≤ countClosed front + 1
  plain : ∀ front back, calls = front ++ .openCursor false :: back →
    ∃ text parameters rest, back = .execute text parameters :: .closeCursor :: rest
  raw : ∀ front back, calls = front ++ .openCursor true :: back →
    ∃ query rest, back = .execute query none :: rest
      ∧ (rest = [] ∨ ∃ more, rest = .closeCursor :: more)

theorem keepsCursors_nil : KeepsCursors [] where
  one := by
    intro front hfront
    rw [List.prefix_nil.mp hfront]
    exact ⟨le_rfl, Nat.zero_le _⟩
  plain := by simp
  raw := by simp

theorem keepsCursors_unreadStream (query : String) : KeepsCursors (unreadStream query) where
  one := by
    intro front hfront
    -- nothing is closed, and there is one cursor to open
    have hopened : countOpened front ≤ 1 := hfront.sublist.countP_le
    have hclosed : countClosed front ≤ 0 := hfront.sublist.count_le _
    omega
  plain := by simp [unreadStream, List.cons_eq_append_iff]
  raw := by simp [unreadStream, List.cons_eq_append_iff]

section
variable {text : String} {parameters : Option (List Value)} {calls : List Call}

/-- Where a cursor is opened in a use and what follows it. -/
theorem eq_or_exists_of_use_eq_append {raw opening : Bool} {front back : List Call}
    (h : .openCursor raw :: .execute text parameters :: .closeCursor :: calls
      = front ++ .openCursor opening :: back) :
    (opening = raw ∧ back = .execute text parameters :: .closeCursor :: calls)
      ∨ ∃ later, calls = later ++ .openCursor opening :: back := by
  match front, h with
  | [], h =>
    obtain ⟨hraw, hback⟩ := List.cons.inj h
    exact .inl ⟨(Call.openCursor.inj hraw).symm, hback.symm⟩
  | [_], h => cases h
  | [_, _], h => cases h
  | _ :: _ :: _ :: later, h =>
    obtain ⟨-, h⟩ := List.cons.inj h
    obtain ⟨-, h⟩ := List.cons.inj h
    exact .inr ⟨later, (List.cons.inj h).2⟩

/-- **A use of a cursor before other calls keeps the discipline.** -/
theorem KeepsCursors.use (h : KeepsCursors calls) {raw : Bool}
    (hraw : raw = true → parameters = none) :
    KeepsCursors (.openCursor raw :: .execute text parameters :: .closeCursor :: calls) where
  one := by
    intro front hfront
    rcases List.prefix_cons_iff.mp hfront with rfl | ⟨front, rfl, hsecond⟩
    · exact ⟨le_rfl, Nat.zero_le _⟩
    rcases List.prefix_cons_iff.mp hsecond with rfl | ⟨front, rfl, hthird⟩
    · exact ⟨Nat.zero_le _, le_rfl⟩
    rcases List.prefix_cons_iff.mp hthird with rfl | ⟨front, rfl, hlater⟩
    · exact ⟨Nat.zero_le _, le_rfl⟩
    -- the cursor has been closed and counts for nothing any more
    have hone := h.one front hlater
    rw [countOpened_use, countClosed_use]
    omega
  plain := by
    intro front back hsplit
    rcases eq_or_exists_of_use_eq_append hsplit with ⟨-, rfl⟩ | ⟨later, hlater⟩
    · exact ⟨text, parameters, calls, rfl⟩
    · exact h.plain later back hlater
  raw := by
    intro front back hsplit
    rcases eq_or_exists_of_use_eq_append hsplit with ⟨rfl, rfl⟩ | ⟨later, hlater⟩
    · exact ⟨text, .closeCursor :: calls, by rw [hraw rfl], .inr ⟨calls, rfl⟩⟩
    · exact h.raw later back hlater

end

/-- **Uses of cursors in a row keep the discipline if what is left behind them does.** -/
theorem keepsCursors_of_uses (uses : List CursorUse) {left : List Call}
    (hleft : KeepsCursors left) : KeepsCursors (uses.flatMap CursorUse.calls ++ left) := by
  induction uses with
  | nil => exact hleft
  | cons use uses ih =>
    rw [List.flatMap_cons, List.append_assoc]
    cases use with
    | fetch text parameters => exact ih.use (by simp)
    | stream query => exact ih.use (by simp)

/-- Every use closes the cursor that it opens. -/
theorem countOpened_eq_countClosed (uses : List CursorUse) :
    countOpened (uses.flatMap CursorUse.calls) = countClosed (uses.flatMap CursorUse.calls) := by
  induction uses with
  | nil => rfl
  | cons use uses ih =>
    rw [List.flatMap_cons]
    cases use with
    | fetch text parameters => simpa [CursorUse.calls] using ih
    | stream query => simpa [CursorUse.calls] using ih

/-- Plain queries are uses of cursors without a stream among them. -/
theorem AreQueries.exists_uses {calls : List Call} (h : AreQueries calls) :
    ∃ uses : List CursorUse, calls = uses.flatMap CursorUse.calls
      ∧ uses.filterMap CursorUse.streamed? = [] := by
  induction h with
  | nil => exact ⟨[], rfl, rfl⟩
  | query text parameters _ ih =>
    obtain ⟨uses, rfl, hnone⟩ := ih
    exact ⟨.fetch text parameters :: uses, rfl, hnone⟩

/-! ## Work that uses cursors -/

namespace Work

variable {α β : Type}

/--
The calls of the work are uses of cursors in a row. Where it comes to an end, `done` holds of
its result and of the queries of all streams. Where it fails, one stream may be `unread`, and
the session is the one in which it was left.
-/
def Uses (work : Work α) (done : α → List String → Prop)
    (unread : Failure → Session → String → Prop) : Prop :=
  ∀ session, ∃ (uses : List CursorUse) (left : List Call),
    (start work session).2.calls = session.calls ++ (uses.flatMap CursorUse.calls ++ left)
    ∧ match start work session with
      | (.ok a, _) => left = [] ∧ done a (uses.filterMap CursorUse.streamed?)
      | (.error failure, after) =>
        left = [] ∨ ∃ query, left = unreadStream query ∧ unread failure after query

variable {work : Work α} {done : α → List String → Prop}
  {unread : Failure → Session → String → Prop}

/-- It is enough to know less of the streams that were read. -/
theorem Uses.mono (h : Uses work done unread) {done' : α → List String → Prop}
    (hdone : ∀ a queries, done a queries → done' a queries) : Uses work done' unread := by
  intro session
  obtain ⟨uses, left, hcalls, h⟩ := h session
  refine ⟨uses, left, hcalls, ?_⟩
  generalize start work session = ended at h ⊢
  obtain ⟨_ | a, after⟩ := ended
  · exact h
  · exact ⟨h.1, hdone a _ h.2⟩

/-- **Work that uses cursors in a row keeps the discipline, also where it fails.** -/
theorem Uses.keepsCursors (h : Uses work done unread) (session : Session) :
    ∃ (uses : List CursorUse) (left : List Call),
      (start work session).2.calls = session.calls ++ (uses.flatMap CursorUse.calls ++ left)
      ∧ KeepsCursors (uses.flatMap CursorUse.calls ++ left)
      ∧ match start work session with
        | (.ok a, _) => left = [] ∧ done a (uses.filterMap CursorUse.streamed?)
        | (.error failure, after) =>
          left = [] ∨ ∃ query, left = unreadStream query ∧ unread failure after query := by
  obtain ⟨uses, left, hcalls, h⟩ := h session
  refine ⟨uses, left, hcalls, keepsCursors_of_uses uses ?_, h⟩
  generalize start work session = ended at h
  obtain ⟨failure | a, after⟩ := ended
  · rcases h with rfl | ⟨query, rfl, -⟩
    · exact keepsCursors_nil
    · exact keepsCursors_unreadStream query
  · rw [h.1]
    exact keepsCursors_nil

/-- **Work in a row uses the cursors of its parts, in a row.** -/
theorem Uses.bind (h : Uses work done unread) {next : α → Work β}
    {done' : β → List String → Prop}
    (hnext : ∀ a queries, done a queries →
      Uses (next a) (fun b more => done' b (queries ++ more)) unread) :
    Uses (work >>= next) done' unread := by
  intro session
  obtain ⟨uses, left, hcalls, h⟩ := h session
  rw [start_bind]
  generalize start work session = ended at hcalls h
  obtain ⟨outcome, middle⟩ := ended
  cases outcome with
  | error failure => exact ⟨uses, left, hcalls, h⟩
  | ok a =>
    obtain ⟨rfl, hdone⟩ := h
    obtain ⟨more, left, hmore, h⟩ := hnext a _ hdone middle
    refine ⟨uses ++ more, left, ?_, ?_⟩
    · rw [hmore, hcalls, List.flatMap_append]
      simp only [List.append_nil, List.append_assoc]
    · rw [List.filterMap_append]
      exact h

/-- The work makes no calls. -/
def IsSilent (work : Work α) : Prop := ∀ session, (start work session).2.calls = session.calls

theorem isSilent_ofResult (result : Except Failure α) : IsSilent (ofResult result) := by
  intro session
  rw [start_ofResult]

theorem IsSilent.bind {next : α → Work β} (h : IsSilent work) (h' : ∀ a, IsSilent (next a)) :
    IsSilent (work >>= next) := by
  intro session
  have hfirst := h session
  rw [start_bind]
  generalize start work session = ended at hfirst
  obtain ⟨outcome, middle⟩ := ended
  cases outcome with
  | ok a => exact (h' a middle).trans hfirst
  | error failure => exact hfirst

/-- What makes no calls uses no cursors. -/
theorem IsSilent.uses (h : IsSilent work)
    (hdone : ∀ session a, (start work session).1 = .ok a → done a []) :
    Uses work done unread := by
  intro session
  refine ⟨[], [], (h session).trans (List.append_nil _).symm, ?_⟩
  have hdone := hdone session
  generalize start work session = ended at hdone ⊢
  obtain ⟨_ | a, after⟩ := ended
  · exact .inl rfl
  · exact ⟨rfl, hdone a rfl⟩

theorem uses_pure (a : α) (h : done a []) : Uses (pure a) done unread :=
  IsSilent.uses (fun _ => rfl) fun _ _ houtcome => Except.ok.inj houtcome ▸ h

theorem IsSilent.uses_bind (h : IsSilent work) {next : α → Work β}
    {done : β → List String → Prop} (hnext : ∀ a, Uses (next a) done unread) :
    Uses (work >>= next) done unread := by
  have hwork : Uses work (fun _ queries => queries = []) unread := h.uses fun _ _ _ => rfl
  refine hwork.bind ?_
  rintro a queries rfl
  exact hnext a

/-- What has been computed is known to what comes next. -/
theorem uses_ofResult_bind {result : Except Failure α} {next : α → Work β}
    {done : β → List String → Prop} (hnext : ∀ a, result = .ok a → Uses (next a) done unread) :
    Uses (ofResult result >>= next) done unread := by
  cases result with
  | ok a => exact hnext a rfl
  | error failure => exact IsSilent.uses (fun _ => rfl) fun _ _ houtcome => nomatch houtcome

/-- What looks something up opens no stream. -/
theorem IsLookup.uses (h : IsLookup work) :
    Uses work (fun a queries => Asks work (.ok a) ∧ queries = []) unread := by
  obtain ⟨outcome, calls, records, htraces, hqueries, -⟩ := h
  obtain ⟨uses, rfl, hnone⟩ := hqueries.exists_uses
  intro session
  refine ⟨uses, [], by rw [htraces.calls, List.append_nil], ?_⟩
  rw [htraces.start_eq, hnone]
  cases outcome with
  | ok a => exact ⟨rfl, htraces.toAsks, rfl⟩
  | error failure => exact .inl rfl

/-- What is looked up is known to what comes next, as the answer to the question. -/
theorem IsLookup.uses_bind (h : IsLookup work) {next : α → Work β}
    {done : β → List String → Prop}
    (hnext : ∀ a, Asks work (.ok a) → Uses (next a) done unread) :
    Uses (work >>= next) done unread := by
  refine h.uses.bind ?_
  rintro a queries ⟨hasks, rfl⟩
  exact hnext a hasks

/-- **A loop uses the cursors of its turns, in a row.** -/
theorem Uses.mapM {list : List α} {f : α → Work β} {done : α → List String → Prop}
    (h : ∀ a ∈ list, Uses (f a) (fun _ => done a) unread) :
    Uses (list.mapM f)
      (fun _ queries => ∃ pieces, List.Forall₂ done list pieces ∧ queries = pieces.flatten)
      unread := by
  induction list with
  | nil =>
    rw [List.mapM_nil]
    exact uses_pure [] ⟨[], .nil, rfl⟩
  | cons a list ih =>
    rw [List.mapM_cons]
    refine (h a (by simp)).bind fun b first hfirst => ?_
    refine (ih fun c hc => h c (List.mem_cons_of_mem _ hc)).bind ?_
    rintro bs more ⟨pieces, hpieces, rfl⟩
    exact uses_pure (b :: bs) ⟨first :: pieces, .cons hfirst hpieces, by simp⟩

theorem Uses.forM {list : List α} {f : α → Work Unit} {done : List String → Prop}
    (h : Uses (list.mapM f) (fun _ => done) unread) :
    Uses (list.forM f) (fun _ => done) unread := by
  intro session
  obtain ⟨uses, left, hcalls, h⟩ := h session
  rw [start_forM]
  refine ⟨uses, left, hcalls, ?_⟩
  generalize start (list.mapM f) session = ended at h ⊢
  obtain ⟨_ | _, after⟩ := ended
  · exact h
  · exact h

/-! A stream leaves its cursor to what comes next. -/

/-- The work closes the cursor that was left to it, unless it fails before that. -/
def Closes (work : Work α) (unread : Failure → Session → Prop) : Prop :=
  ∀ session, (start work session).2.calls = session.calls ++ [.closeCursor]
    ∨ ∃ failure after, start work session = (.error failure, after)
      ∧ after.calls = session.calls ∧ unread failure after

theorem IsSilent.closes_of_call {next : Work α} (h : IsSilent next)
    (unread : Failure → Session → Prop) :
    Closes (do call .closeCursor; next) unread :=
  fun _ => .inl (h _)

/-- **A stream whose rows are read is a use of a cursor.** -/
theorem uses_stream_bind {server : Server} {query : String}
    {next : List Column × RowSource Failure → Work α}
    (hrefused : ∀ failure after, Connection.streamed server query = .error failure →
      unread failure after query)
    (hnext : ∀ rows, Closes (next rows) fun failure after => unread failure after query) :
    Uses (Connection.stream server query >>= next) (fun _ queries => queries = [query])
      unread := by
  intro session
  have hstream := Connection.traces_stream server query
  have hopened := hstream.calls session
  rw [start_bind, hstream.start_eq]
  cases houtcome : Connection.streamed server query with
  | error failure =>
    exact ⟨[], unreadStream query, hopened, .inr ⟨query, rfl, hrefused failure _ houtcome⟩⟩
  | ok rows =>
    -- the cursor is open now, and it is for what comes next to close it
    dsimp only
    generalize (start (Connection.stream server query) session).2 = middle at hopened
    rcases hnext rows middle with hclosed | ⟨failure, after, hfailed, hleft, hunread⟩
    · refine ⟨[.stream query], [], ?_, ?_⟩
      · rw [hclosed, hopened, List.append_assoc]
        rfl
      · generalize start (next rows) middle = ended
        obtain ⟨_ | _, after⟩ := ended
        · exact .inl rfl
        · exact ⟨rfl, rfl⟩
    · rw [hfailed]
      exact ⟨[], unreadStream query, hleft.trans hopened, .inr ⟨query, rfl, hunread⟩⟩

end Work

/-! ## The cursors of a dump -/

namespace Dump

/--
Why the rows of a query were never read: the server refused the query, or its answer has
columns that make no sense, or the side file for the rows could not be opened. In the last case
nothing was done after that.
-/
inductive IsUnread (server : Server) (options : Options) (writer : Writer) (failure : Failure)
    (after : Session) (query : String) : Prop
  | refused (h : server.answer query .null = .error failure)
  | obscure {answer : Answer} (hanswer : server.answer query .null = .ok answer)
      (hcolumns : answer.headings.mapM Column.ofCells = .error failure)
  | unopened {style : SideFile.Style} {database table : Value} {before : Session}
      (hwriter : writer = .sideFiles style)
      (hquery : query = rowsQuery options.filter database table)
      (hopen : start (SideFile.openFile style database table) before = (.error failure, after))

section
variable {server : Server} {options : Options} {writer : Writer}

/-- A stream that was opened in vain was refused, or its columns make no sense. -/
theorem isUnread_of_streamed {query : String} {failure : Failure} (after : Session)
    (h : Connection.streamed server query = .error failure) :
    IsUnread server options writer failure after query := by
  unfold Connection.streamed at h
  obtain hanswer | ⟨answer, hanswer, h⟩ := bind_eq_error_iff.mp h
  · exact .refused hanswer
  · obtain hcolumns | ⟨columns, -, h⟩ := bind_eq_error_iff.mp h
    · exact .obscure hanswer hcolumns
    · cases h

theorem Inserts.isSilent_writeTable (budget : Sql.Budget) (table : Value) (columns : List Column)
    (source : RowSource Failure) : IsSilent (writeTable budget table columns source) := by
  refine IsSilent.bind (fun _ => rfl) fun _ => ?_
  refine (isSilent_ofResult _).bind fun groups => ?_
  cases source.failure with
  | some failure => exact fun _ => rfl
  | none => exact fun _ => rfl

theorem SideFile.isSilent_openFile (style : SideFile.Style) (database table : Value) :
    IsSilent (SideFile.openFile style database table) := by
  refine IsSilent.bind (fun _ => rfl) fun session => ?_
  refine (isSilent_ofResult _).bind fun location => ?_
  refine IsSilent.bind (fun _ => rfl) fun _ => ?_
  exact (isSilent_ofResult _).bind fun delimiter => fun _ => rfl

theorem SideFile.isSilent_writeRows (style : SideFile.Style) (location : Location)
    (delimiter : Char) (database table : Value) (columns : List Column)
    (source : RowSource Failure) :
    IsSilent (SideFile.writeRows style location delimiter database table columns source) := by
  intro session
  unfold SideFile.writeRows
  cases source.failure with
  | some failure => rfl
  | none => rfl

/-- The cursor is closed before the rows go anywhere, unless there is no file for them. -/
theorem uses_tableRows (database table : Value) :
    Uses (tableRows server writer options.filter database table)
      (fun _ queries => queries = [rowsQuery options.filter database table])
      (IsUnread server options writer) := by
  refine IsSilent.uses_bind (fun _ => rfl) fun _ => ?_
  refine uses_stream_bind (fun _ => isUnread_of_streamed) fun ⟨columns, source⟩ => ?_
  cases writer with
  | inserts budget => exact IsSilent.closes_of_call (Inserts.isSilent_writeTable _ _ _ _) _
  | sideFiles style =>
    intro session
    have hsilent := SideFile.isSilent_openFile style database table session
    dsimp only
    rw [start_bind]
    cases hopened : start (SideFile.openFile style database table) session with
    | mk outcome middle =>
      rw [hopened] at hsilent
      cases outcome with
      | error failure =>
        -- without a file the rows are not read, and nobody closes their cursor
        exact .inr ⟨failure, middle, rfl, hsilent, .unopened rfl rfl hopened⟩
      | ok file =>
        refine .inl ?_
        rw [← hsilent]
        exact SideFile.isSilent_writeRows _ _ _ _ _ _ _ _

theorem flatten_of_forall₂ {α β : Type} {f : α → List β} {list : List α} {pieces : List (List β)}
    (h : List.Forall₂ (fun a piece => piece = f a) list pieces) :
    pieces.flatten = list.flatMap f := by
  have hmap : List.Forall₂ Eq (list.map f) pieces :=
    List.forall₂_map_left_iff.mpr (h.imp fun _ _ => Eq.symm)
  rw [List.forall₂_eq_eq_eq] at hmap
  rw [← hmap, List.flatMap_def]

/-- The queries that the block of a definition streams. -/
def selects (options : Options) (database : Value) (definition : Definition) : List String :=
  match definition.table.dumpedKind with
  | .ok .ordinary =>
    if options.omitData then [] else [rowsQuery options.filter database definition.table.name]
  | _ => []

/-- What is streamed of a database are the rows of its plan. -/
def StreamsPlan (server : Server) (options : Options) (database : Value)
    (queries : List String) : Prop :=
  ∃ plan, Asks (Plan.make server options database) (.ok plan)
    ∧ queries = plan.definitions.flatMap (selects options database)

theorem isSilent_writeCreation (creation : Value) (spaced : Bool) :
    IsSilent (writeCreation creation spaced) :=
  (isSilent_ofResult _).bind fun _ => fun _ => rfl

theorem uses_writeOrdinary {database : Value} {definition : Definition}
    (hkind : definition.table.dumpedKind = .ok .ordinary) :
    Uses (writeOrdinary server options writer database definition)
      (fun _ queries => queries = selects options database definition)
      (IsUnread server options writer) := by
  rw [selects, hkind]
  refine IsSilent.uses_bind (fun _ => rfl) fun _ => ?_
  refine (isSilent_writeCreation _ _).uses_bind fun _ => ?_
  cases options.omitData with
  | true => exact uses_pure _ rfl
  | false =>
    refine (uses_tableRows database definition.table.name).bind ?_
    rintro stats queries rfl
    exact uses_pure _ rfl

theorem uses_created (drop : Sql.Statement) (creation : Value) (stats : TableStats) :
    Uses (do emit drop; writeCreation creation true; return stats) (fun _ queries => queries = [])
      (IsUnread server options writer) := by
  refine IsSilent.uses_bind (fun _ => rfl) fun _ => ?_
  exact (isSilent_writeCreation creation true).uses_bind fun _ => uses_pure stats rfl

theorem uses_writeBlock (database : Value) (definition : Definition) :
    Uses (writeBlock server options writer database definition)
      (fun _ queries => queries = selects options database definition)
      (IsUnread server options writer) := by
  refine uses_ofResult_bind fun kind hkind => ?_
  cases kind with
  | ordinary => exact uses_writeOrdinary hkind
  | external =>
    rw [selects, hkind]
    exact IsSilent.uses_bind (fun _ => rfl) fun _ => uses_created _ _ _
  | view =>
    rw [selects, hkind]
    exact uses_created _ _ _

theorem uses_countedBlock (database : Value) (definition : Definition) :
    Uses (countedBlock server options writer database definition)
      (fun _ queries => queries = selects options database definition)
      (IsUnread server options writer) := by
  refine (uses_writeBlock database definition).bind ?_
  rintro stats queries rfl
  exact IsSilent.uses (fun _ => rfl) fun _ _ _ => List.append_nil _

/-- The streams of the blocks are those of the ordinary tables, in the order of the plan. -/
theorem uses_blocks (database : Value) (definitions : List Definition) :
    Uses (definitions.mapM (countedBlock server options writer database))
      (fun _ queries => queries = definitions.flatMap (selects options database))
      (IsUnread server options writer) := by
  refine (Uses.mapM fun definition _ => uses_countedBlock database definition).mono ?_
  rintro _ queries ⟨pieces, hpieces, rfl⟩
  exact flatten_of_forall₂ hpieces

theorem uses_writeHeader (database type : Value) :
    Uses (writeHeader server database type) (fun _ queries => queries = [])
      (IsUnread server options writer) := by
  refine (isLookup_headerCreation server database type).uses_bind fun creation _ => ?_
  refine IsSilent.uses_bind (fun _ => rfl) fun _ => ?_
  refine (isSilent_writeCreation creation false).uses_bind fun _ => ?_
  exact IsSilent.uses (fun _ => rfl) fun _ _ _ => rfl

/-- **A database streams the ordinary tables of its plan.** -/
theorem uses_writeSection (database : Value) :
    Uses (writeSection server options writer database)
      (fun _ => StreamsPlan server options database) (IsUnread server options writer) := by
  rw [writeSection_eq]
  refine (Plan.isLookup_make server options database).uses_bind fun plan hplan => ?_
  refine IsSilent.uses_bind (fun _ => rfl) fun _ => ?_
  have hblocks : Uses (do
      let tables ← plan.definitions.mapM (countedBlock server options writer database)
      count (·.addDatabase (.ofTables database tables)))
      (fun _ => StreamsPlan server options database) (IsUnread server options writer) := by
    refine (uses_blocks database plan.definitions).bind ?_
    rintro tables queries rfl
    exact IsSilent.uses (fun _ => rfl) fun _ _ _ => ⟨plan, hplan, List.append_nil _⟩
  cases options.allTables with
  | true =>
    refine (uses_writeHeader database plan.type).bind ?_
    rintro ⟨⟩ queries rfl
    exact hblocks
  | false => exact hblocks

theorem uses_run :
    Uses (run server options writer)
      (fun _ queries => ∃ databases pieces, Asks (Plan.databases server options) (.ok databases)
        ∧ List.Forall₂ (StreamsPlan server options) databases pieces
        ∧ queries = pieces.flatten)
      (IsUnread server options writer) := by
  refine (Plan.isLookup_databases server options).uses_bind fun databases hdatabases => ?_
  refine IsSilent.uses_bind (fun _ => rfl) fun _ => ?_
  refine IsSilent.uses_bind (fun _ => rfl) fun _ => ?_
  refine (Uses.mapM fun database _ => uses_writeSection database).forM.bind ?_
  rintro ⟨⟩ queries ⟨pieces, hpieces, rfl⟩
  exact IsSilent.uses (fun _ => rfl) fun _ _ _ =>
    ⟨databases, pieces, hdatabases, hpieces, List.append_nil _⟩

/-- The streams of all databases are those of the parts of the dump. -/
theorem flatten_eq_of_parts {parts : List Part} {pieces : List (List String)}
    (hparts : ∀ part ∈ parts, part.IsOf server options)
    (hpieces : List.Forall₂ (StreamsPlan server options) (parts.map Part.database) pieces) :
    pieces.flatten = parts.flatMap fun part =>
      part.plan.definitions.flatMap (selects options part.database) := by
  have hboth := (List.forall₂_and_left _ _).mpr ⟨hparts, List.forall₂_map_left_iff.mp hpieces⟩
  refine flatten_of_forall₂ (hboth.imp ?_)
  rintro part piece ⟨hof, plan, hplan, rfl⟩
  -- a database has only one plan
  rw [Except.ok.inj (hplan.unique hof.plan)]

/--
**A dump has at most one cursor open, and it reads each ordinary table once.**

The calls are uses of cursors in a row. Behind them at most one cursor is left open, by a dump
that fails, for a stream whose rows were never read. A dump that comes to its end has closed
all cursors, and its streams are those of the ordinary tables in the order in which they are
written.
-/
theorem run_keeps_cursors (server : Server) (options : Options) (writer : Writer)
    (session : Session) :
    ∃ (uses : List CursorUse) (left : List Call),
      let calls := uses.flatMap CursorUse.calls ++ left
      (start (run server options writer) session).2.calls = session.calls ++ calls
      ∧ KeepsCursors calls
      ∧ match start (run server options writer) session with
        | (.ok _, after) =>
          countOpened calls = countClosed calls
          ∧ ∃ parts : List Part,
            Asks (Plan.databases server options) (.ok (parts.map Part.database))
            ∧ (∀ part ∈ parts, part.IsOf server options)
            ∧ after.output = session.output
              ++ (.foreignKeyChecks false :: parts.flatMap Part.output ++ [.foreignKeyChecks true])
            ∧ left = []
            ∧ uses.filterMap CursorUse.streamed? = parts.flatMap fun part =>
                part.plan.definitions.flatMap (selects options part.database)
        | (.error failure, after) =>
          left = [] ∨ ∃ query, left = unreadStream query
            ∧ IsUnread server options writer failure after query := by
  obtain ⟨uses, left, hcalls, hkeeps, h⟩ := uses_run.keepsCursors session
  refine ⟨uses, left, hcalls, hkeeps, ?_⟩
  cases hended : start (run server options writer) session with
  | mk outcome after =>
    rw [hended] at h
    cases outcome with
    | error failure => exact h
    | ok stats =>
      obtain ⟨rfl, databases, pieces, hdatabases, hpieces, hqueries⟩ := h
      obtain ⟨parts, hfound, hparts, hadds, -⟩ := exists_parts_of_run_ok hended
      obtain rfl : databases = parts.map Part.database :=
        Except.ok.inj (hdatabases.unique hfound)
      refine ⟨?_, parts, hfound, hparts, hadds.output, rfl, ?_⟩
      · rw [List.append_nil]
        exact countOpened_eq_countClosed uses
      · exact hqueries.trans (flatten_eq_of_parts hparts hpieces)

end

end Dump

end DatabaseDump
