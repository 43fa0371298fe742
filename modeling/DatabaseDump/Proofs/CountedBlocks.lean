import DatabaseDump.Proofs.Accounts
import DatabaseDump.Proofs.Repetition
import Mathlib.Algebra.GroupWithZero.Nat

/-!
# What a block counts

The counts change when a block is complete, and never before: looking things up, writing
statements and files, and streaming rows leave them as they are, whether they fail or not. So a
block that breaks off is not counted at all, and one that is complete is counted with the rows
that were streamed for it.
-/

namespace DatabaseDump

open Work

namespace Work

variable {α β : Type} {session after : Session} {failure : Failure}

/-! ## Work that fails, and work that counts nothing -/

/-- Work that failed did so in its first part or in the second one. -/
theorem exists_of_start_bind_error {work : Work α} {next : α → Work β}
    (h : start (work >>= next) session = (.error failure, after)) :
    start work session = (.error failure, after)
    ∨ ∃ a middle, start work session = (.ok a, middle)
      ∧ start (next a) middle = (.error failure, after) := by
  rw [start_bind] at h
  split at h
  · rename_i a middle hwork
    exact .inr ⟨a, middle, hwork, h⟩
  · rename_i failure' middle hwork
    cases h
    exact .inl hwork

/-- A loop for its effect fails where one that collects does, in the same session. -/
theorem start_mapM_of_start_forM_error {f : α → Work Unit} {list : List α}
    (h : start (list.forM f) session = (.error failure, after)) :
    start (list.mapM f) session = (.error failure, after) := by
  rw [start_forM] at h
  obtain ⟨houtcome, hafter⟩ := Prod.mk.inj h
  cases hresults : (start (list.mapM f) session).1 with
  | ok results =>
    rw [hresults] at houtcome
    cases houtcome
  | error failure' =>
    rw [hresults] at houtcome
    cases houtcome
    exact Prod.ext hresults hafter

/-- A loop that failed came to the end of all turns before the one that failed. -/
theorem exists_of_start_mapM_error {f : α → Work β} {list : List α}
    (h : start (list.mapM f) session = (.error failure, after)) :
    ∃ front a back results middle, list = front ++ a :: back
      ∧ start (front.mapM f) session = (.ok results, middle)
      ∧ start (f a) middle = (.error failure, after) := by
  induction list generalizing session with
  | nil => cases h
  | cons a list ih =>
    rw [List.mapM_cons] at h
    rcases exists_of_start_bind_error h with hfirst | ⟨b, middle, hfirst, h⟩
    · exact ⟨[], a, list, [], session, rfl, rfl, hfirst⟩
    rcases exists_of_start_bind_error h with hlater | ⟨bs, last, -, hended⟩
    · obtain ⟨front, a', back, results, reached, rfl, hfront, hfailed⟩ := ih hlater
      refine ⟨a :: front, a', back, b :: results, reached, rfl, ?_, hfailed⟩
      rw [List.mapM_cons, start_bind_of_ok hfirst, start_bind_of_ok hfront]
      rfl
    · -- what is left is to put the results together
      cases hended

/-- Work that leaves the counts alone. -/
structure IsUncounted (work : Work α) : Prop where
  stats : ∀ session : Session, (start work session).2.stats = session.stats

theorem IsUncounted.of_start {work : Work α} {outcome : Except Failure α} (h : IsUncounted work)
    (hstart : start work session = (outcome, after)) : after.stats = session.stats := by
  have hstats := h.stats session
  rwa [hstart] at hstats

/-- **Work in a row leaves the counts alone if its parts do, however far it comes.** -/
theorem IsUncounted.bind {work : Work α} {next : α → Work β} (h : IsUncounted work)
    (hnext : ∀ a, IsUncounted (next a)) : IsUncounted (work >>= next) where
  stats := by
    intro session
    rw [start_bind]
    split
    · rename_i a middle hwork
      exact ((hnext a).stats middle).trans (h.of_start hwork)
    · rename_i failure middle hwork
      exact h.of_start hwork

/-- Asking counts nothing. -/
theorem IsQuestion.isUncounted {work : Work α} (h : IsQuestion work) : IsUncounted work where
  stats := by
    intro session
    obtain ⟨outcome, hwork⟩ := h
    exact (hwork.asked session).stats

theorem isUncounted_pure (a : α) : IsUncounted (pure a) := ⟨fun _ => rfl⟩

theorem isUncounted_throw (failure : Failure) : IsUncounted (throw failure : Work α) :=
  ⟨fun _ => rfl⟩

theorem isUncounted_emit (statement : Sql.Statement) : IsUncounted (emit statement) :=
  ⟨fun _ => rfl⟩

theorem isUncounted_emitAll (statements : List Sql.Statement) :
    IsUncounted (emitAll statements) := ⟨fun _ => rfl⟩

theorem isUncounted_note (level : Log.Level) (message : String) :
    IsUncounted (note level message) := ⟨fun _ => rfl⟩

end Work

namespace Dump

/-! Down to a whole block nothing is counted: the writers hand their counts to the one who asked. -/

theorem Inserts.isUncounted_writeTable (budget : Sql.Budget) (table : Value)
    (columns : List Column) (source : RowSource Failure) :
    IsUncounted (writeTable budget table columns source) := by
  have hbuffers : IsUncounted useBuffers := ⟨fun _ => rfl⟩
  refine hbuffers.bind fun _ => ?_
  refine (asks_ofResult _).isQuestion.isUncounted.bind fun groups => ?_
  cases source.failure with
  | some failure => exact (isUncounted_emitAll _).bind fun _ => isUncounted_throw failure
  | none =>
    refine (isUncounted_emitAll _).bind fun _ => ?_
    exact (isUncounted_note _ _).bind fun _ => isUncounted_pure _

theorem SideFile.isUncounted_openFile (style : SideFile.Style) (database table : Value) :
    IsUncounted (SideFile.openFile style database table) := by
  have hget : IsUncounted (get : Work Session) := ⟨fun _ => rfl⟩
  have hput (location : Location) : IsUncounted (modify fun session : Session =>
      { session with folder := session.folder.put location [] } : Work Unit) := ⟨fun _ => rfl⟩
  refine hget.bind fun session => ?_
  refine (asks_ofResult _).isQuestion.isUncounted.bind fun location => ?_
  refine (hput location).bind fun _ => ?_
  exact (asks_ofResult _).isQuestion.isUncounted.bind fun delimiter => isUncounted_pure _

theorem SideFile.isUncounted_writeRows (style : SideFile.Style) (location : Location)
    (delimiter : Char) (database table : Value) (columns : List Column)
    (source : RowSource Failure) :
    IsUncounted (SideFile.writeRows style location delimiter database table columns source) := by
  have hput (content : Bytes) : IsUncounted (modify fun session : Session =>
      { session with folder := session.folder.put location content } : Work Unit) := ⟨fun _ => rfl⟩
  refine (hput _).bind fun _ => ?_
  cases source.failure with
  | some failure => exact isUncounted_throw failure
  | none =>
    have hget : IsUncounted (get : Work Session) := ⟨fun _ => rfl⟩
    refine hget.bind fun session => ?_
    refine (isUncounted_emit _).bind fun _ => ?_
    exact (isUncounted_note _ _).bind fun _ => isUncounted_pure _

section
variable (server : Server) (options : Options) (writer : Writer)

theorem isUncounted_tableRows (filter database table : Value) :
    IsUncounted (tableRows server writer filter database table) := by
  refine (isUncounted_note _ _).bind fun _ => ?_
  refine (Connection.isQuestion_stream ..).isUncounted.bind fun streamed => ?_
  cases writer with
  | inserts budget =>
    refine (asks_call _).isQuestion.isUncounted.bind fun _ => ?_
    exact Inserts.isUncounted_writeTable ..
  | sideFiles style =>
    refine (SideFile.isUncounted_openFile ..).bind fun opened => ?_
    refine (asks_call _).isQuestion.isUncounted.bind fun _ => ?_
    exact SideFile.isUncounted_writeRows ..

theorem isUncounted_writeCreation (creation : Value) (spaced : Bool) :
    IsUncounted (writeCreation creation spaced) := by
  refine (asks_ofResult _).isQuestion.isUncounted.bind fun text => ?_
  exact isUncounted_emit _

/-- A block counts nothing by itself. -/
theorem isUncounted_writeBlock (database : Value) (definition : Definition) :
    IsUncounted (writeBlock server options writer database definition) := by
  refine (asks_ofResult _).isQuestion.isUncounted.bind fun kind => ?_
  cases kind with
  | ordinary =>
    refine (isUncounted_emit _).bind fun _ => ?_
    refine (isUncounted_writeCreation ..).bind fun _ => ?_
    cases options.omitData with
    | true => exact isUncounted_pure _
    | false => exact (isUncounted_tableRows ..).bind fun stats => isUncounted_pure _
  | external =>
    refine (isUncounted_emit _).bind fun _ => ?_
    refine (isUncounted_emit _).bind fun _ => ?_
    exact (isUncounted_writeCreation ..).bind fun _ => isUncounted_pure _
  | view =>
    refine (isUncounted_emit _).bind fun _ => ?_
    exact (isUncounted_writeCreation ..).bind fun _ => isUncounted_pure _

/-- The header of a database is not counted, and the database itself only in the end. -/
theorem isUncounted_writeHeader (database type : Value) :
    IsUncounted (writeHeader server database type) := by
  refine (isLookup_headerCreation server database type).isQuestion.isUncounted.bind
    fun creation => ?_
  refine (isUncounted_emit _).bind fun _ => ?_
  exact (isUncounted_writeCreation ..).bind fun _ => isUncounted_emit _

end

/-! ## What a block counts -/

/-- How many rows are dumped of a definition: those that were streamed for it, if any were. -/
inductive IsRowCount (server : Server) (options : Options) (database : Value)
    (definition : Definition) : Nat → Prop
  | streamed {columns : List Column} {rows : List Row}
      (hkind : definition.table.dumpedKind = .ok .ordinary) (hdata : options.omitData = false)
      (hstream : Streams server options database definition.table.name
        (.ok (columns, ⟨rows, none⟩))) :
      IsRowCount server options database definition rows.length
  | omitted (hkind : definition.table.dumpedKind = .ok .ordinary)
      (hdata : options.omitData = true) : IsRowCount server options database definition 0
  | rowless {kind : TableKind} (hkind : definition.table.dumpedKind = .ok kind)
      (hne : kind ≠ .ordinary) : IsRowCount server options database definition 0

/-- The counts of a definition. -/
structure IsCounted (server : Server) (options : Options) (database : Value)
    (definition : Definition) (stats : TableStats) : Prop where
  table : stats.table = definition.table.name
  kind : stats.kind = definition.table.kind
  rows : IsRowCount server options database definition stats.rows

section
variable {server : Server} {options : Options} {writer : Writer} {session after : Session}
  {database : Value} {definition : Definition} {stats : TableStats} {failure : Failure}

theorem Inserts.rows_of_writeTable_ok {budget : Sql.Budget} {table : Value}
    {columns : List Column} {source : RowSource Failure}
    (h : start (writeTable budget table columns source) session = (.ok stats, after)) :
    source.failure = none ∧ stats.rows = source.rows.length := by
  obtain ⟨⟨⟩, lent, -, h⟩ := exists_of_start_bind_ok h
  obtain ⟨groups, middle, -, h⟩ := exists_of_start_bind_ok h
  cases hended : source.failure with
  | some failure =>
    rw [hended] at h
    cases h
  | none =>
    rw [hended] at h
    cases h
    exact ⟨rfl, rfl⟩

theorem SideFile.rows_of_writeRows_ok {style : SideFile.Style} {location : Location}
    {delimiter : Char} {table : Value} {columns : List Column} {source : RowSource Failure}
    (h : start (SideFile.writeRows style location delimiter database table columns source) session
      = (.ok stats, after)) :
    source.failure = none ∧ stats.rows = source.rows.length := by
  obtain ⟨⟨⟩, written, -, h⟩ := exists_of_start_bind_ok h
  cases hended : source.failure with
  | some failure =>
    rw [hended] at h
    cases h
  | none =>
    rw [hended] at h
    cases h
    exact ⟨rfl, rfl⟩

/-- The rows that are dumped of a table are those that were streamed, up to their end. -/
theorem rows_of_tableRows_ok {table : Value}
    (h : start (tableRows server writer options.filter database table) session
      = (.ok stats, after)) :
    ∃ columns rows, Streams server options database table (.ok (columns, ⟨rows, none⟩))
      ∧ stats.rows = rows.length := by
  obtain ⟨⟨⟩, noted, -, h⟩ := exists_of_start_bind_ok h
  obtain ⟨⟨columns, rows, ended⟩, streamed, hstream, -, h⟩ :=
    (Connection.isQuestion_stream ..).exists_of_bind_ok h
  have hwritten : ended = none ∧ stats.rows = rows.length := by
    cases writer with
    | inserts budget =>
      obtain ⟨⟨⟩, closed, -, h⟩ := exists_of_start_bind_ok h
      exact Inserts.rows_of_writeTable_ok h
    | sideFiles style =>
      obtain ⟨⟨location, delimiter⟩, opened, -, h⟩ := exists_of_start_bind_ok h
      obtain ⟨⟨⟩, closed, -, h⟩ := exists_of_start_bind_ok h
      exact SideFile.rows_of_writeRows_ok h
  obtain ⟨rfl, hrows⟩ := hwritten
  exact ⟨columns, rows, hstream, hrows⟩

theorem isRowCount_of_writeBlock_ok
    (h : start (writeBlock server options writer database definition) session
      = (.ok stats, after)) : IsRowCount server options database definition stats.rows := by
  obtain ⟨kind, middle, hknown, h⟩ := exists_of_start_bind_ok h
  rw [start_ofResult] at hknown
  obtain ⟨hkind, rfl⟩ := Prod.mk.inj hknown
  cases kind with
  | ordinary =>
    obtain ⟨creation, created, -, -, h⟩ := exists_of_created_ok h
    -- only here rows are dumped, unless none are wanted
    cases homit : options.omitData with
    | true =>
      rw [homit] at h
      cases h
      exact .omitted hkind homit
    | false =>
      rw [homit] at h
      obtain ⟨filled, _, hfilled, h⟩ := exists_of_start_bind_ok h
      cases h
      obtain ⟨columns, rows, hstream, hrows⟩ := rows_of_tableRows_ok hfilled
      dsimp only
      rw [hrows]
      exact .streamed hkind homit hstream
  | external =>
    obtain ⟨⟨⟩, marked, -, h⟩ := exists_of_start_bind_ok h
    obtain ⟨creation, created, -, -, h⟩ := exists_of_created_ok h
    cases h
    exact .rowless hkind (by decide)
  | view =>
    obtain ⟨creation, created, -, -, h⟩ := exists_of_created_ok h
    cases h
    exact .rowless hkind (by decide)

/-- A block that is complete is counted in all. -/
theorem counted_of_countedBlock_ok
    (h : start (countedBlock server options writer database definition) session
      = (.ok stats, after)) :
    IsCounted server options database definition stats
      ∧ after.stats = session.stats.addTable stats := by
  obtain ⟨block, hblock, rfl, -⟩ := writesBlock_of_countedBlock_ok h
  obtain ⟨written, middle, hwritten, h⟩ := exists_of_start_bind_ok h
  have hstats : middle.stats = session.stats := (isUncounted_writeBlock ..).of_start hwritten
  have hrows := isRowCount_of_writeBlock_ok hwritten
  cases h
  refine ⟨⟨hblock.table, hblock.kind, hrows⟩, ?_⟩
  show middle.stats.addTable block.stats = _
  rw [hstats]

/-- A block that breaks off is not counted. -/
theorem stats_of_countedBlock_error
    (h : start (countedBlock server options writer database definition) session
      = (.error failure, after)) : after.stats = session.stats := by
  rcases exists_of_start_bind_error h with hbroken | ⟨written, middle, -, h⟩
  · exact (isUncounted_writeBlock ..).of_start hbroken
  · cases h

/-- The rows of a database are those of its tables. -/
theorem totalRows_ofTables (name : Value) (tables : List TableStats) :
    (DatabaseStats.ofTables name tables).totalRows = (tables.map TableStats.rows).sum := by
  rw [DatabaseStats.ofTables_eq, List.sum_eq_foldl]

/-- What some tables add to the counts in all. -/
def tally (tables : List TableStats) : DumpStats :=
  ⟨[], tables.length, (tables.map TableStats.rows).sum⟩

/-- What the entry of a database adds to the counts in all. -/
def entryCounts (entry : DatabaseStats) : DumpStats :=
  ⟨[entry], entry.tables.length, entry.totalRows⟩

/-- The first table can be counted beforehand. -/
theorem append_tally_cons (counts : DumpStats) (table : TableStats) (tables : List TableStats) :
    counts.addTable table ++ tally tables = counts ++ tally (table :: tables) := by
  refine DumpStats.ext rfl ?_ ?_
  · show counts.totalTables + 1 + tables.length = counts.totalTables + (tables.length + 1)
    omega
  · show counts.totalRows + table.rows + (tables.map TableStats.rows).sum
      = counts.totalRows + ((table :: tables).map TableStats.rows).sum
    rw [List.map_cons, List.sum_cons, Nat.add_assoc]

/-- To enter a database is to add its entry to the counts, which hold its tables already. -/
theorem addDatabase_tally (counts : DumpStats) (database : Value) (tables : List TableStats) :
    (counts ++ tally tables).addDatabase (.ofTables database tables)
      = counts ++ entryCounts (.ofTables database tables) := by
  rw [entryCounts, DatabaseStats.tables_ofTables, totalRows_ofTables]
  exact DumpStats.ext (congrArg (· ++ _) (List.append_nil _)) rfl rfl

/-- The blocks of definitions are counted one by one. -/
theorem counted_of_blocks_ok {definitions : List Definition} {tables : List TableStats}
    (h : start (definitions.mapM (countedBlock server options writer database)) session
      = (.ok tables, after)) :
    List.Forall₂ (IsCounted server options database) definitions tables
      ∧ after.stats = session.stats ++ tally tables := by
  induction definitions generalizing session tables with
  | nil =>
    cases h
    exact ⟨.nil, (DumpStats.append_nil _).symm⟩
  | cons definition definitions ih =>
    rw [List.mapM_cons] at h
    obtain ⟨table, middle, hfirst, h⟩ := exists_of_start_bind_ok h
    obtain ⟨later, last, hlater, h⟩ := exists_of_start_bind_ok h
    cases h
    obtain ⟨hcounted, hstats⟩ := counted_of_countedBlock_ok hfirst
    obtain ⟨hall, hmore⟩ := ih hlater
    refine ⟨.cons hcounted hall, ?_⟩
    rw [hmore, hstats, append_tally_cons]

end

end Dump

end DatabaseDump
