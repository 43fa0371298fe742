import DatabaseDump.Proofs.CountedBlocks
import DatabaseDump.Server.Script

/-!
# Counts across dumps that fail

A table is counted for its database and in all as soon as its block is written, and a database
is entered when all its blocks are. So a dump that breaks off leaves tables and rows counted in
all that belong to no entry: those of the blocks that were complete in the database where it
failed. An `Account` holds the entries of a dump and these tables, and the counts in all are
what the accounts of all dumps add up to.
-/

namespace DatabaseDump

open Work

namespace Dump

/-! ## Databases -/

/-- What comes before the blocks of a section: the plan is made, and the header is written. -/
def openSection (server : Server) (options : Options) (database : Value) : Work Plan := do
  let plan ← Plan.make server options database
  note .info ("Dumping " ++ toString plan.definitions.length ++ " table(s) from '"
    ++ database.toText ++ "'")
  if options.allTables then writeHeader server database plan.type
  return plan

/--
The entry of a database: one table for each definition of its plan, in the order in which they
are written, and the rows of all of them.
-/
structure IsEntry (server : Server) (options : Options) (entry : DatabaseStats) : Prop where
  tables : ∃ plan, Asks (Plan.make server options entry.name) (.ok plan)
    ∧ List.Forall₂ (IsCounted server options entry.name) plan.definitions entry.tables
  totalRows : entry.totalRows = (entry.tables.map TableStats.rows).sum

/-- Databases are dumped one after the other, and each one is entered when it is complete. -/
inductive Completes (server : Server) (options : Options) (writer : Writer) :
    Session → List DatabaseStats → Session → Prop
  | nil {session : Session} : Completes server options writer session [] session
  | cons {before middle after : Session} {entry : DatabaseStats} {entries : List DatabaseStats}
      (hsection : start (writeSection server options writer entry.name) before
        = (.ok (), middle))
      (hentry : IsEntry server options entry)
      (hstats : middle.stats = before.stats ++ entryCounts entry)
      (hrest : Completes server options writer middle entries after) :
      Completes server options writer before (entry :: entries) after

/--
The dump of a database breaks off, and some tables have been counted until then: none before
the first block, and otherwise those of the definitions before the one whose block breaks off.
-/
inductive BreaksOff (server : Server) (options : Options) (writer : Writer) (database : Value)
    (failure : Failure) : Session → List TableStats → Session → Prop
  | early {before after : Session}
      (hopening : start (openSection server options database) before = (.error failure, after)) :
      BreaksOff server options writer database failure before [] after
  | late {before opened middle after : Session} {plan : Plan} {front back : List Definition}
      {definition : Definition} {tables : List TableStats}
      (hplan : Asks (Plan.make server options database) (.ok plan))
      (hsplit : plan.definitions = front ++ definition :: back)
      (hopening : start (openSection server options database) before = (.ok plan, opened))
      (hfront : start (front.mapM (countedBlock server options writer database)) opened
        = (.ok tables, middle))
      (hcounted : List.Forall₂ (IsCounted server options database) front tables)
      (hbroken : start (countedBlock server options writer database definition) middle
        = (.error failure, after)) :
      BreaksOff server options writer database failure before tables after

section
variable {server : Server} {options : Options} {writer : Writer} {before after : Session}
  {database : Value} {failure : Failure}

theorem writeSection_eq_openSection (server : Server) (options : Options) (writer : Writer)
    (database : Value) : writeSection server options writer database = (do
      let plan ← openSection server options database
      let tables ← plan.definitions.mapM (countedBlock server options writer database)
      count (·.addDatabase (.ofTables database tables))) := by
  rw [writeSection_eq]
  cases hall : options.allTables with
  | true => simp [openSection, hall]
  | false => simp [openSection, hall]

theorem isUncounted_openSection (server : Server) (options : Options) (database : Value) :
    IsUncounted (openSection server options database) := by
  refine (Plan.isLookup_make server options database).isQuestion.isUncounted.bind fun plan => ?_
  refine (isUncounted_note _ _).bind fun _ => ?_
  cases options.allTables with
  | true => exact (isUncounted_writeHeader ..).bind fun _ => isUncounted_pure plan
  | false => exact isUncounted_pure plan

theorem asks_of_openSection_ok {plan : Plan}
    (h : start (openSection server options database) before = (.ok plan, after)) :
    Asks (Plan.make server options database) (.ok plan) := by
  obtain ⟨made, planned, hmade, -, h⟩ :=
    (Plan.isLookup_make server options database).isQuestion.exists_of_bind_ok h
  obtain ⟨⟨⟩, noted, -, h⟩ := exists_of_start_bind_ok h
  cases hall : options.allTables with
  | true =>
    rw [hall] at h
    obtain ⟨⟨⟩, headed, -, h⟩ := exists_of_start_bind_ok h
    cases h
    exact hmade
  | false =>
    rw [hall] at h
    cases h
    exact hmade

/-- A database that is complete is entered with what was counted of it. -/
theorem exists_entry_of_writeSection_ok
    (h : start (writeSection server options writer database) before = (.ok (), after)) :
    ∃ entry : DatabaseStats, entry.name = database ∧ IsEntry server options entry
      ∧ after.stats = before.stats ++ entryCounts entry := by
  rw [writeSection_eq_openSection] at h
  obtain ⟨plan, opened, hopened, h⟩ := exists_of_start_bind_ok h
  obtain ⟨tables, middle, hblocks, h⟩ := exists_of_start_bind_ok h
  have hplan := asks_of_openSection_ok hopened
  have hopened := (isUncounted_openSection server options database).of_start hopened
  obtain ⟨hcounted, hstats⟩ := counted_of_blocks_ok hblocks
  cases h
  have hentry : IsEntry server options (.ofTables database tables) := by
    constructor
    · rw [DatabaseStats.name_ofTables, DatabaseStats.tables_ofTables]
      exact ⟨plan, hplan, hcounted⟩
    · rw [totalRows_ofTables, DatabaseStats.tables_ofTables]
  refine ⟨.ofTables database tables, DatabaseStats.name_ofTables .., hentry, ?_⟩
  show middle.stats.addDatabase (.ofTables database tables) = _
  rw [hstats, hopened, addDatabase_tally]

/-- A dump that breaks off has a first block that does, if it came to the blocks at all. -/
theorem exists_tables_of_writeSection_error
    (h : start (writeSection server options writer database) before = (.error failure, after)) :
    ∃ tables, BreaksOff server options writer database failure before tables after := by
  rw [writeSection_eq_openSection] at h
  rcases exists_of_start_bind_error h with hopening | ⟨plan, opened, hopened, h⟩
  · exact ⟨[], .early hopening⟩
  rcases exists_of_start_bind_error h with hblocks | ⟨tables, middle, -, h⟩
  · obtain ⟨front, definition, back, tables, middle, hsplit, hfront, hbroken⟩ :=
      exists_of_start_mapM_error hblocks
    have hcounted := (counted_of_blocks_ok hfront).1
    exact ⟨tables, .late (asks_of_openSection_ok hopened) hsplit hopened hfront hcounted hbroken⟩
  · -- the entry is made without asking anything
    cases h

/-- What was counted before a dump broke off stays counted. -/
theorem BreaksOff.stats {tables : List TableStats}
    (h : BreaksOff server options writer database failure before tables after) :
    after.stats = before.stats ++ tally tables := by
  cases h with
  | early hopening =>
    rw [(isUncounted_openSection server options database).of_start hopening]
    exact (DumpStats.append_nil _).symm
  | late hplan hsplit hopening hfront hcounted hbroken =>
    rw [stats_of_countedBlock_error hbroken, (counted_of_blocks_ok hfront).2,
      (isUncounted_openSection server options database).of_start hopening]

theorem exists_entries_of_sections_ok {databases : List Value} {results : List Unit}
    (h : start (databases.mapM (writeSection server options writer)) before
      = (.ok results, after)) :
    ∃ entries, entries.map DatabaseStats.name = databases
      ∧ Completes server options writer before entries after := by
  induction databases generalizing before results with
  | nil =>
    cases h
    exact ⟨[], rfl, .nil⟩
  | cons database databases ih =>
    rw [List.mapM_cons] at h
    obtain ⟨⟨⟩, middle, hfirst, h⟩ := exists_of_start_bind_ok h
    obtain ⟨later, last, hlater, h⟩ := exists_of_start_bind_ok h
    cases h
    obtain ⟨entry, rfl, hentry, hstats⟩ := exists_entry_of_writeSection_ok hfirst
    obtain ⟨entries, rfl, hentries⟩ := ih hlater
    exact ⟨entry :: entries, rfl, .cons hfirst hentry hstats hentries⟩

end

/-! ## Dumps -/

/-- What a dump adds to the counts: entries, and tables that belong to none of them. -/
structure Account where
  /-- The databases that are complete. -/
  entries : List DatabaseStats
  /-- The tables that were complete in the database where the dump broke off. -/
  partly : List TableStats

/-- The counts that an account adds up to. -/
def Account.counts (account : Account) : DumpStats where
  databases := account.entries
  totalTables := (account.entries.map (·.tables.length)).sum + account.partly.length
  totalRows := (account.entries.map DatabaseStats.totalRows).sum
    + (account.partly.map TableStats.rows).sum

/-- What comes before the sections of a dump. -/
def openDump (server : Server) (options : Options) : Work (List Value) := do
  let databases ← Plan.databases server options
  note .info ("Starting dump of " ++ toString databases.length ++ " database(s)")
  emit (.foreignKeyChecks false)
  return databases

/-- The account of a dump, from the session before it to its outcome and the session after it. -/
inductive Account.IsOf (server : Server) (options : Options) (writer : Writer) :
    Session → Except Failure DumpStats → Session → Account → Prop
  | unresolved {before after : Session} {failure : Failure}
      (hopening : start (openDump server options) before = (.error failure, after)) :
      IsOf server options writer before (.error failure) after ⟨[], []⟩
  | complete {before opened dumped after : Session} {entries : List DatabaseStats}
      (hopening : start (openDump server options) before
        = (.ok (entries.map DatabaseStats.name), opened))
      (hentries : Completes server options writer opened entries dumped)
      (hclosing : start (emit (.foreignKeyChecks true)) dumped = (.ok (), after)) :
      IsOf server options writer before (.ok after.stats) after ⟨entries, []⟩
  | broken {before opened reached after : Session} {entries : List DatabaseStats}
      {database : Value} {back : List Value} {tables : List TableStats} {failure : Failure}
      (hopening : start (openDump server options) before
        = (.ok (entries.map DatabaseStats.name ++ database :: back), opened))
      (hentries : Completes server options writer opened entries reached)
      (hbroken : BreaksOff server options writer database failure reached tables after) :
      IsOf server options writer before (.error failure) after ⟨entries, tables⟩

section
variable {server : Server} {options : Options} {writer : Writer} {before after : Session}

/-- Every complete database was entered, and nothing else was counted. -/
theorem Completes.stats {entries : List DatabaseStats}
    (h : Completes server options writer before entries after) :
    after.stats = before.stats ++ (Account.mk entries []).counts := by
  induction h with
  | nil => exact (DumpStats.append_nil _).symm
  | @cons before middle after entry entries hsection hentry hstats hrest ih =>
    rw [ih, hstats, DumpStats.append_assoc]
    refine congrArg (before.stats ++ ·) (DumpStats.ext rfl ?_ ?_)
    · exact (Nat.add_assoc ..).symm
    · exact (Nat.add_assoc ..).symm

theorem Completes.isEntry {entries : List DatabaseStats}
    (h : Completes server options writer before entries after) :
    ∀ entry ∈ entries, IsEntry server options entry := by
  induction h with
  | nil =>
    intro entry hentry
    cases hentry
  | cons hsection hentry hstats hrest ih => exact List.forall_mem_cons.mpr ⟨hentry, ih⟩

theorem isUncounted_openDump (server : Server) (options : Options) :
    IsUncounted (openDump server options) := by
  refine (Plan.isLookup_databases server options).isQuestion.isUncounted.bind fun databases => ?_
  refine (isUncounted_note _ _).bind fun _ => ?_
  exact (isUncounted_emit _).bind fun _ => isUncounted_pure databases

theorem run_eq_openDump (server : Server) (options : Options) (writer : Writer) :
    run server options writer = (do
      let databases ← openDump server options
      databases.forM (writeSection server options writer)
      emit (.foreignKeyChecks true)
      return (← get).stats) := by
  simp only [run, openDump, bind_assoc, pure_bind]

namespace Account

variable {account : Account} {outcome : Except Failure DumpStats}

/-- A dump adds to the counts what its account adds up to. -/
theorem IsOf.stats (h : account.IsOf server options writer before outcome after) :
    after.stats = before.stats ++ account.counts := by
  cases h with
  | unresolved hopening =>
    rw [(isUncounted_openDump server options).of_start hopening]
    exact (DumpStats.append_nil _).symm
  | complete hopening hentries hclosing =>
    have hopened := (isUncounted_openDump server options).of_start hopening
    have hclosed := (isUncounted_emit _).of_start hclosing
    rw [hclosed, hentries.stats, hopened]
  | broken hopening hentries hbroken =>
    rw [hbroken.stats, hentries.stats, (isUncounted_openDump server options).of_start hopening,
      DumpStats.append_assoc]
    refine congrArg (before.stats ++ ·) (DumpStats.ext (List.append_nil _) ?_ ?_)
    · exact congrArg (· + _) (Nat.add_zero _)
    · exact congrArg (· + _) (Nat.add_zero _)

theorem IsOf.isEntry (h : account.IsOf server options writer before outcome after) :
    ∀ entry ∈ account.entries, IsEntry server options entry := by
  cases h with
  | unresolved hopening =>
    intro entry hentry
    cases hentry
  | complete hopening hentries hclosing => exact hentries.isEntry
  | broken hopening hentries hbroken => exact hentries.isEntry

end Account

/-- **Every dump has an account**, wherever it fails. -/
theorem exists_account (server : Server) (options : Options) (writer : Writer)
    (before : Session) : ∃ account : Account,
      account.IsOf server options writer before (start (run server options writer) before).1
        (start (run server options writer) before).2 := by
  rcases hrun : start (run server options writer) before with ⟨outcome, after⟩
  rw [run_eq_openDump] at hrun
  cases outcome with
  | ok stats =>
    obtain ⟨databases, opened, hopened, hloop⟩ := exists_of_start_bind_ok hrun
    obtain ⟨⟨⟩, dumped, hdumped, hswitch⟩ := exists_of_start_bind_ok hloop
    obtain ⟨⟨⟩, closed, hclosed, hended⟩ := exists_of_start_bind_ok hswitch
    cases hended
    obtain ⟨results, hsections⟩ := exists_of_start_forM_ok hdumped
    obtain ⟨entries, rfl, hentries⟩ := exists_entries_of_sections_ok hsections
    exact ⟨⟨entries, []⟩, .complete hopened hentries hclosed⟩
  | error failure =>
    rcases exists_of_start_bind_error hrun with hopening | ⟨databases, opened, hopened, h⟩
    · exact ⟨⟨[], []⟩, .unresolved hopening⟩
    rcases exists_of_start_bind_error h with hsections | ⟨⟨⟩, dumped, -, h⟩
    · obtain ⟨front, database, back, results, reached, rfl, hfront, hbroken⟩ :=
        exists_of_start_mapM_error (start_mapM_of_start_forM_error hsections)
      obtain ⟨entries, rfl, hentries⟩ := exists_entries_of_sections_ok hfront
      obtain ⟨tables, hbroken⟩ := exists_tables_of_writeSection_error hbroken
      exact ⟨⟨entries, tables⟩, .broken hopened hentries hbroken⟩
    · -- behind the sections only a statement is written
      cases h

end

/-! ## Dumps in a row -/

/--
Dumps that are done one after the other with the same options. Before each of them the server
may have changed, and so may the files.
-/
def dumps (options : Options) (writer : Writer) : List (Server × Folder) → Session → Session
  | [], session => session
  | (server, folder) :: occasions, session =>
    dumps options writer occasions (start (run server options writer) { session with folder }).2

/-- The accounts of dumps that are done one after the other. -/
inductive Account.AreOf (options : Options) (writer : Writer) :
    List (Server × Folder) → Session → List Account → Prop
  | nil {session : Session} : AreOf options writer [] session []
  | cons {server : Server} {folder : Folder} {occasions : List (Server × Folder)}
      {session after : Session} {outcome : Except Failure DumpStats} {account : Account}
      {accounts : List Account}
      (hrun : start (run server options writer) { session with folder } = (outcome, after))
      (hfirst : account.IsOf server options writer { session with folder } outcome after)
      (hrest : AreOf options writer occasions after accounts) :
      AreOf options writer ((server, folder) :: occasions) session (account :: accounts)

section
variable {options : Options} {writer : Writer}

theorem exists_accounts (options : Options) (writer : Writer)
    (occasions : List (Server × Folder)) (session : Session) :
    ∃ accounts, Account.AreOf options writer occasions session accounts := by
  induction occasions generalizing session with
  | nil => exact ⟨[], .nil⟩
  | cons occasion occasions ih =>
    obtain ⟨server, folder⟩ := occasion
    obtain ⟨account, hfirst⟩ := exists_account server options writer { session with folder }
    obtain ⟨accounts, hrest⟩ := ih (start (run server options writer) { session with folder }).2
    exact ⟨account :: accounts, .cons rfl hfirst hrest⟩

namespace Account

/-- The counts that several accounts add up to. -/
def total (accounts : List Account) : DumpStats where
  databases := accounts.flatMap entries
  totalTables := ((accounts.flatMap entries).map (·.tables.length)).sum
    + (accounts.flatMap partly).length
  totalRows := ((accounts.flatMap entries).map DatabaseStats.totalRows).sum
    + ((accounts.flatMap partly).map TableStats.rows).sum

theorem counts_append_total (account : Account) (accounts : List Account) :
    account.counts ++ total accounts = total (account :: accounts) := by
  refine DumpStats.ext rfl ?_ ?_
  · simp only [DumpStats.totalTables_append, counts, total, List.flatMap_cons, List.map_append,
      List.sum_append, List.length_append]
    omega
  · simp only [DumpStats.totalRows_append, counts, total, List.flatMap_cons, List.map_append,
      List.sum_append]
    omega

variable {occasions : List (Server × Folder)} {session : Session} {accounts : List Account}

/-- Dumps in a row add to the counts what their accounts add up to. -/
theorem AreOf.stats (h : AreOf options writer occasions session accounts) :
    (dumps options writer occasions session).stats = session.stats ++ total accounts := by
  induction h with
  | nil => exact (DumpStats.append_nil _).symm
  | @cons server folder occasions session after outcome account accounts hrun hfirst hrest ih =>
    rw [dumps, hrun, ih, hfirst.stats, DumpStats.append_assoc, counts_append_total]

theorem AreOf.exists_isEntry (h : AreOf options writer occasions session accounts) :
    ∀ entry ∈ accounts.flatMap entries,
      ∃ occasion ∈ occasions, IsEntry occasion.1 options entry := by
  induction h with
  | nil =>
    intro entry hmem
    cases hmem
  | cons hrun hfirst hrest ih =>
    intro entry hmem
    rw [List.flatMap_cons, List.mem_append] at hmem
    rcases hmem with hnow | hlater
    · exact ⟨_, List.mem_cons_self, hfirst.isEntry entry hnow⟩
    · obtain ⟨occasion, hoccasion, hentry⟩ := ih entry hlater
      exact ⟨occasion, List.mem_cons_of_mem _ hoccasion, hentry⟩

end Account

end

/--
Counts stay consistent, however many dumps are done and wherever they fail.

Each dump has an account of what it did. The entries are those of all accounts, one for each
database that was complete, with the tables of its plan and their rows. The counts in all are
those of the entries, and of the tables that were complete where a dump broke off.
-/
theorem dumps_keep_counts (options : Options) (writer : Writer)
    (occasions : List (Server × Folder)) (session : Session) :
    ∃ accounts : List Account,
      let fresh : Session := { session with stats := {} }
      let stats := (dumps options writer occasions fresh).stats
      Account.AreOf options writer occasions fresh accounts
      ∧ stats.databases = accounts.flatMap Account.entries
      ∧ (∀ entry ∈ stats.databases,
        entry.totalRows = (entry.tables.map TableStats.rows).sum
        ∧ ∃ occasion ∈ occasions, IsEntry occasion.1 options entry)
      ∧ stats.totalTables = (stats.databases.map (·.tables.length)).sum
        + (accounts.flatMap Account.partly).length
      ∧ stats.totalRows = (stats.databases.map DatabaseStats.totalRows).sum
        + ((accounts.flatMap Account.partly).map TableStats.rows).sum := by
  obtain ⟨accounts, hof⟩ := exists_accounts options writer occasions { session with stats := {} }
  refine ⟨accounts, hof, ?_⟩
  have hstats : (dumps options writer occasions { session with stats := {} }).stats
      = Account.total accounts := by
    rw [hof.stats]
    exact DumpStats.ext rfl (Nat.zero_add _) (Nat.zero_add _)
  rw [hstats]
  refine ⟨rfl, ?_, rfl, rfl⟩
  intro entry hmem
  obtain ⟨occasion, hoccasion, hentry⟩ := hof.exists_isEntry entry hmem
  exact ⟨hentry.totalRows, occasion, hoccasion, hentry⟩

/-- A server with a garden of two tables, of which the rows of the second one break off. -/
def garden : Server :=
  let rows (list : List (List Value)) : Except Failure Answer := .ok { rows := .ok list }
  let created (name statement : String) := rows [[.text name, .text statement]]
  let headings : List (List Value) := [[.text "id", .int 3, .null]]
  { answer := Server.scripted
      [⟨Catalog.databaseTypeQuery false, none, rows [[.text "garden", .text ""]]⟩,
        ⟨Catalog.tablesQuery [] false, none,
          rows [[.text "beds", .text "r"], [.text "herbs", .text "r"]]⟩,
        ⟨"SHOW CREATE DATABASE `garden`", none, created "garden" "CREATE DATABASE garden"⟩,
        ⟨"SHOW CREATE TABLE `garden`.`beds`", none, created "beds" "CREATE TABLE beds (id INT)"⟩,
        ⟨"SHOW CREATE TABLE `garden`.`herbs`", none,
          created "herbs" "CREATE TABLE herbs (id INT)"⟩,
        ⟨"SELECT * FROM `garden`.`beds`", none,
          .ok { headings, stream := ⟨[[some (Text.utf8 "1")], [some (Text.utf8 "2")]], none⟩ }⟩,
        ⟨"SELECT * FROM `garden`.`herbs`", none,
          .ok { headings, stream := ⟨[[some (Text.utf8 "3")]], some (.server "gone")⟩ }⟩] }

/-- Two dumps of the garden count its first table twice, and enter no database. -/
example :
    let stats := (dumps { databases := .list [.text "garden"] } (.inserts (.bytes 1048576))
      [(garden, { base := [] }), (garden, { base := [] })] { folder := { base := [] } }).stats
    stats.databases.length = 0 ∧ stats.totalTables = 2 ∧ stats.totalRows = 4 := by
  decide +kernel

end Dump

end DatabaseDump
