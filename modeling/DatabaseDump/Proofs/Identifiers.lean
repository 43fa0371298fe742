import DatabaseDump.Dump.DryRun
import DatabaseDump.Proofs.Accounts
import DatabaseDump.Proofs.NameReader
import DatabaseDump.Proofs.Planning

/-!
# The names that a dump uses

A dump puts names into the queries that it sends and into the statements that it writes.
`Asking` and `Writing` list these texts, each with the words and the names that it is composed
of. The names are those of databases that are to be dumped and of tables that the catalog
lists for them; nothing else that stands between back-ticks comes from the dump itself, only
from statements that the server gives.

`Utters` says of work that all it sends and writes is of some kind. It holds of work in a
row and of loops if it holds of their parts, so it is derived along the structure of the dump, for
runs that fail as well.
-/

namespace DatabaseDump

open Work

/-! ## What work sends and writes -/

namespace Work

variable {α β : Type}

/-- All calls that the work makes are `sent`, and all statements that it adds are `written`. -/
def Utters (sent : Call → Prop) (written : Sql.Statement → Prop) (work : Work α) : Prop :=
  ∀ session, ∃ calls statements,
    (start work session).2.calls = session.calls ++ calls
    ∧ (start work session).2.output = session.output ++ statements
    ∧ (∀ c ∈ calls, sent c) ∧ ∀ statement ∈ statements, written statement

/-- The work may come to this result. -/
def Yields (work : Work α) (a : α) : Prop := ∃ session, (start work session).1 = .ok a

/-- There is only one answer to a question, so one that may come about always does. -/
theorem IsQuestion.asks_of_yields {work : Work α} {a : α} (h : IsQuestion work)
    (hyields : Yields work a) : Asks work (.ok a) := by
  obtain ⟨outcome, hwork⟩ := h
  obtain ⟨session, hsession⟩ := hyields
  rw [hwork.outcome session] at hsession
  rwa [hsession] at hwork

theorem eq_ok_of_yields_ofResult {result : Except Failure α} {a : α}
    (h : Yields (ofResult result) a) : result = .ok a := by
  obtain ⟨session, hsession⟩ := h
  rwa [start_ofResult] at hsession

variable {sent : Call → Prop} {written : Sql.Statement → Prop} {work : Work α}

/-- Work that leaves calls and output alone utters nothing, so it utters nothing wrong. -/
theorem utters_of_eq
    (h : ∀ session, (start work session).2.calls = session.calls
      ∧ (start work session).2.output = session.output) : Utters sent written work := by
  intro session
  refine ⟨[], [], ?_, ?_, by simp, by simp⟩
  · rw [(h session).1, List.append_nil]
  · rw [(h session).2, List.append_nil]

theorem utters_pure (a : α) : Utters sent written (pure a) := utters_of_eq fun _ => ⟨rfl, rfl⟩

theorem utters_throw (failure : Failure) : Utters sent written (throw failure : Work α) :=
  utters_of_eq fun _ => ⟨rfl, rfl⟩

theorem utters_ofResult (result : Except Failure α) : Utters sent written (ofResult result) := by
  refine utters_of_eq fun session => ?_
  rw [start_ofResult]
  exact ⟨rfl, rfl⟩

theorem utters_record (records : List Log.Record) : Utters sent written (record records) :=
  utters_of_eq fun _ => ⟨rfl, rfl⟩

theorem utters_count (change : DumpStats → DumpStats) : Utters sent written (count change) :=
  utters_of_eq fun _ => ⟨rfl, rfl⟩

/-! A call and a statement are uttered where they are of the right kind. -/

theorem utters_call {c : Call} (h : sent c) : Utters sent written (call c) :=
  fun session => ⟨[c], [], rfl, (List.append_nil session.output).symm, by simpa using h, by simp⟩

theorem utters_emitAll {statements : List Sql.Statement}
    (h : ∀ statement ∈ statements, written statement) :
    Utters sent written (emitAll statements) :=
  fun session => ⟨[], statements, (List.append_nil session.calls).symm, rfl, by simp, h⟩

theorem utters_emit {statement : Sql.Statement} (h : written statement) :
    Utters sent written (emit statement) :=
  fun session =>
    ⟨[], [statement], (List.append_nil session.calls).symm, rfl, by simp, by simpa using h⟩

/-- **Work in a row utters what its parts utter.** -/
theorem Utters.bind (h : Utters sent written work) {next : α → Work β}
    (hnext : ∀ a, Yields work a → Utters sent written (next a)) :
    Utters sent written (work >>= next) := by
  intro session
  obtain ⟨calls, statements, hcalls, houtput, hsent, hwritten⟩ := h session
  have hyields : ∀ a, (start work session).1 = .ok a → Yields work a := fun a ha => ⟨session, ha⟩
  rw [start_bind]
  generalize start work session = ended at hcalls houtput hyields
  obtain ⟨outcome, middle⟩ := ended
  cases outcome with
  | error failure =>
    -- the second part is never begun
    exact ⟨calls, statements, hcalls, houtput, hsent, hwritten⟩
  | ok a =>
    obtain ⟨more, others, hmore, hothers, hsent', hwritten'⟩ := hnext a (hyields a rfl) middle
    refine ⟨calls ++ more, statements ++ others, ?_, ?_, ?_, ?_⟩
    · rw [hmore, hcalls, List.append_assoc]
    · rw [hothers, houtput, List.append_assoc]
    · exact List.forall_mem_append.mpr ⟨hsent, hsent'⟩
    · exact List.forall_mem_append.mpr ⟨hwritten, hwritten'⟩

/-- What is done at the end is done after a failure too, so no result of the first part is given. -/
theorem Utters.andAlways {last : Work Unit} (h : Utters sent written work)
    (h' : Utters sent written last) : Utters sent written (work.andAlways last) := by
  intro session
  obtain ⟨calls, statements, hcalls, houtput, hsent, hwritten⟩ := h session
  obtain ⟨more, others, hmore, hothers, hsent', hwritten'⟩ := h' (start work session).2
  rw [start_andAlways]
  refine ⟨calls ++ more, statements ++ others, ?_, ?_, ?_, ?_⟩
  · rw [hmore, hcalls, List.append_assoc]
  · rw [hothers, houtput, List.append_assoc]
  · exact List.forall_mem_append.mpr ⟨hsent, hsent'⟩
  · exact List.forall_mem_append.mpr ⟨hwritten, hwritten'⟩

/-- **A loop utters what its turns utter.** -/
theorem Utters.mapM {list : List α} {f : α → Work β}
    (h : ∀ a ∈ list, Utters sent written (f a)) : Utters sent written (list.mapM f) := by
  induction list with
  | nil =>
    rw [List.mapM_nil]
    exact utters_pure []
  | cons a list ih =>
    obtain ⟨ha, hlist⟩ := List.forall_mem_cons.mp h
    -- a turn that fails ends the loop, which is what work in a row does
    rw [List.mapM_cons]
    refine ha.bind fun b _ => ?_
    exact (ih hlist).bind fun bs _ => utters_pure (b :: bs)

theorem Utters.forM {list : List α} {f : α → Work Unit}
    (h : ∀ a ∈ list, Utters sent written (f a)) : Utters sent written (list.forM f) := by
  intro session
  rw [start_forM]
  exact Utters.mapM h session

end Work

/-! ## The texts of a dump -/

namespace Dump

open Sql (Composition Statement identifier)
open Text (utf8)

section
variable (server : Server) (options : Options)

/-- A database that is to be dumped. -/
def IsPlanned (database : Value) : Prop :=
  ∃ databases, Asks (Plan.databases server options) (.ok databases) ∧ database ∈ databases

/-- A table that the catalog lists for a database that is to be dumped. -/
def IsListed (database table : Value) : Prop :=
  IsPlanned server options database
    ∧ ∃ type listing, Asks (Catalog.databaseType server database options.sysAccount) (.ok type)
      ∧ Asks (Plan.tables server options database type) (.ok listing)
      ∧ table ∈ listing.map Table.name

/-- A statement that the server gives for a database or a table. -/
def IsGiven (definition : String) : Prop :=
  ∃ database, Asks (Catalog.databaseCreation server database) (.ok (.text definition))
    ∨ ∃ table, Asks (Catalog.tableCreation server database table) (.ok (.text definition))

/--
The queries that a dump sends, as words and names. Where names come as parameters, there is no
back-tick at all.
-/
inductive Asking : String → Composition → Prop
  | plain {text : String} (h : '`' ∉ text.toList) : Asking text ⟨[], utf8 text⟩
  | tables {database : Value} (h : IsPlanned server options database) :
      Asking ("SHOW TABLES FROM " ++ identifier database.toText)
        ⟨[("SHOW TABLES FROM ", database.toText)], []⟩
  | databaseCreation {database : Value} (h : IsPlanned server options database) :
      Asking ("SHOW CREATE DATABASE " ++ identifier database.toText)
        ⟨[("SHOW CREATE DATABASE ", database.toText)], []⟩
  | tableCreation {database table : Value} (h : IsListed server options database table) :
      Asking ("SHOW CREATE TABLE " ++ Catalog.qualified database table)
        ⟨[("SHOW CREATE TABLE ", database.toText), (".", table.toText)], []⟩
  | rows {database table : Value} (h : IsListed server options database table) :
      Asking (rowsQuery options.filter database table)
        ⟨[("SELECT * FROM ", database.toText), (".", table.toText)],
          utf8 (if options.filter.isGiven then " WHERE " ++ options.filter.toText else "")⟩

/-- What a load statement says before the name of the table. -/
def loadWords (load : Sql.Load) : String :=
  "LOAD DATA " ++ (if load.localFile then "LOCAL " else "") ++ "INFILE '" ++ load.path
    ++ "' INTO TABLE "

/-- What a load statement says after the name of the table. -/
def loadRest (load : Sql.Load) : String :=
  " FIELDS TERMINATED BY '" ++ load.delimiter
    ++ "' ENCLOSED BY '\"' LINES TERMINATED BY '\\n' PARALLEL 'FALSE';\n"

/-- The statements that a dump writes, as words and names. -/
inductive Writing : Statement → Composition → Prop
  | switch (on : Bool) :
      Writing (.foreignKeyChecks on) ⟨[], (Statement.foreignKeyChecks on).bytes⟩
  | endOfRows : Writing .endOfRows ⟨[], Statement.endOfRows.bytes⟩
  | given {definition : String} (h : IsGiven server definition) (spaced : Bool) :
      Writing (.create definition spaced) ⟨[], (Statement.create definition spaced).bytes⟩
  | subscription {database : Value} (h : IsPlanned server options database) :
      Writing (.create ("CREATE DATABASE IF NOT EXISTS " ++ identifier database.toText) false)
        ⟨[("CREATE DATABASE IF NOT EXISTS ", database.toText)], utf8 ";\n"⟩
  | dropDatabase {database : Value} (h : IsPlanned server options database) :
      Writing (.dropDatabase database.toText)
        ⟨[("DROP DATABASE IF EXISTS ", database.toText)], utf8 ";\n"⟩
  | useDatabase {database : Value} (h : IsPlanned server options database) :
      Writing (.useDatabase database.toText) ⟨[("USE ", database.toText)], utf8 ";\n\n\n"⟩
  | externalMarker {database table : Value} (h : IsListed server options database table) :
      Writing (.externalMarker table.toText) ⟨[("/*!EXTERNAL TABLE ", table.toText)], utf8 "*/\n"⟩
  | dropTable {database table : Value} (h : IsListed server options database table) :
      Writing (.dropTable table.toText) ⟨[("DROP TABLE IF EXISTS ", table.toText)], utf8 ";\n"⟩
  | dropView {database table : Value} (h : IsListed server options database table) :
      Writing (.dropView table.toText) ⟨[("DROP VIEW IF EXISTS ", table.toText)], utf8 ";\n"⟩
  | insert {database table : Value} (h : IsListed server options database table)
      (group : List Bytes) :
      Writing (.insert table.toText group)
        ⟨[("INSERT INTO ", table.toText)],
          utf8 " VALUES " ++ Sql.commaSeparated group ++ Sql.Insert.closing⟩
  | load {database table : Value} (h : IsListed server options database table) {load : Sql.Load}
      (htable : load.table = table.toText) :
      Writing (.load load) ⟨[(loadWords load, table.toText)], utf8 (loadRest load)⟩

/-- Queries are sent as listed. -/
def IsSent : Call → Prop
  | .execute text _ => ∃ composition, Asking server options text composition
  | _ => True

/-- Statements are written as listed. -/
def IsWritten (statement : Statement) : Prop :=
  ∃ composition, Writing server options statement composition

/-- The work sends queries and writes statements as listed. -/
abbrev Keeps {α : Type} (work : Work α) : Prop :=
  Utters (IsSent server options) (IsWritten server options) work

variable {server options} {composition : Composition}

/-- Queries are composed as listed. -/
theorem Asking.utf8_eq {text : String} (h : Asking server options text composition) :
    utf8 text = composition.bytes := by
  cases h with
  | plain => rfl
  | tables | databaseCreation => simp [Composition.bytes, Composition.bytesFrom]
  | tableCreation | rows =>
    simp [Composition.bytes, Composition.bytesFrom, rowsQuery, Catalog.qualified,
      Text.utf8_append]

/-- A creation statement that ends in a name is not closed yet, since a back-tick ends it. -/
theorem creationText_identifier (words name : String) :
    Sql.creationText (words ++ identifier name) false = words ++ identifier name ++ ";\n" := by
  have hlast : (words ++ identifier name).toList.getLast? = some '`' := by
    have hsplit : (words ++ identifier name).toList = (words ++ "`" ++ name).toList ++ ['`'] := by
      simp [identifier, String.toList_append]
    rw [hsplit, List.getLast?_concat]
  rw [Sql.creationText, hlast, if_neg (by decide), if_neg (by decide), String.append_assoc,
    String.append_assoc]
  rfl

/-- The table is the only name of a load statement. -/
theorem load_text_eq (load : Sql.Load) :
    load.text = loadWords load ++ identifier load.table ++ loadRest load := by
  delta Sql.Load.text loadWords loadRest
  simp only [String.append_assoc]

/-- Statements are composed as listed. -/
theorem Writing.bytes_eq {statement : Statement}
    (h : Writing server options statement composition) : statement.bytes = composition.bytes := by
  -- most statements are words, one name, and words that close the statement
  have hone (words name rest : String) :
      utf8 (words ++ identifier name ++ rest) = Composition.bytes ⟨[(words, name)], utf8 rest⟩ := by
    simp [Composition.bytes, Composition.bytesFrom, Text.utf8_append]
  cases h with
  | switch | endOfRows | given => rfl
  | dropDatabase | useDatabase | externalMarker | dropTable | dropView => exact hone _ _ _
  | subscription =>
    rw [Statement.bytes, creationText_identifier]
    exact hone _ _ _
  | insert =>
    have hinto : utf8 "INSERT INTO `" = utf8 "INSERT INTO " ++ utf8 "`" := by decide
    have hvalues : utf8 "` VALUES " = utf8 "`" ++ utf8 " VALUES " := by decide
    simp only [Statement.bytes, Sql.Insert.statement, Sql.Insert.opening, Text.utf8_append, hinto,
      hvalues, Composition.bytes, Composition.bytesFrom, identifier, List.flatMap_cons,
      List.flatMap_nil, List.append_nil, List.append_assoc]
  | load _ htable =>
    rw [← htable, ← hone, ← load_text_eq]
    rfl

/-- What keeps a name apart is at the start of the words, so more words behind do not matter. -/
theorem separates_append {words : String} (h : Composition.Separates (utf8 words)) (more : String) :
    Composition.Separates (utf8 (words ++ more)) := by
  rw [Text.utf8_append]
  exact h.append _

/-- Queries keep their names apart. -/
theorem Asking.isApart {text : String} (h : Asking server options text composition) :
    composition.IsApart := by
  cases h with
  | plain => exact Composition.isApart_nil _
  | tables | databaseCreation => exact Composition.isApart_one (by decide) (by decide) _
  | tableCreation =>
    exact (Composition.isApart_one (by decide) (by decide) _).cons (by decide) (by decide) _
  | rows =>
    -- the name of the table is followed by a blank, or it ends the query
    have hrest : (utf8 (if options.filter.isGiven then " WHERE " ++ options.filter.toText else
        "")).head? ≠ some Sql.backtick := by
      have hwhere : Composition.Separates (utf8 " WHERE ") := by decide
      split
      · exact (separates_append hwhere _).head?_ne
      · exact nofun
    exact (Composition.isApart_one (by decide) hrest _).cons (by decide) hrest _

/-- Statements keep their names apart. -/
theorem Writing.isApart {statement : Statement} (h : Writing server options statement composition) :
    composition.IsApart := by
  cases h with
  | switch | endOfRows | given => exact Composition.isApart_nil _
  | subscription | dropDatabase | useDatabase | externalMarker | dropTable | dropView =>
    exact Composition.isApart_one (by decide) (by decide) _
  | insert =>
    have hvalues : Composition.Separates (utf8 " VALUES ") := by decide
    exact Composition.isApart_one (by decide) ((hvalues.append _).append _).head?_ne _
  | load =>
    -- the path stands before the name and the delimiter behind it, and neither is next to it
    have hload : Composition.Separates (utf8 "LOAD DATA ") := by decide
    have hfields : Composition.Separates (utf8 " FIELDS TERMINATED BY '") := by decide
    refine Composition.isApart_one ?_ ?_ _
    · exact separates_append (separates_append (separates_append (separates_append hload _) _) _) _
    · exact (separates_append (separates_append hfields _) _).head?_ne

/-!
## What a dump sends and writes

From here on the lemmas follow the functions of a dump from the inside out. A text that is sent or
written is listed because of what is known of the database or the table that it names.
-/

theorem keeps_execute {text : String} (h : Asking server options text composition)
    (parameters : Value) : Keeps server options (Connection.execute server text parameters) := by
  refine (utters_ofResult _).bind fun list _ => ?_
  have hsent : IsSent server options (.execute text list) := ⟨composition, h⟩
  exact (utters_call hsent).bind fun _ _ => utters_ofResult _

/-- A plain query sends nothing but its text; opening and closing a cursor name nothing. -/
theorem keeps_query {text : String} (h : Asking server options text composition)
    (parameters : Value) : Keeps server options (Connection.query server text parameters) := by
  refine (utters_call trivial).bind fun _ _ => ?_
  refine Utters.andAlways ?_ (utters_call trivial)
  exact (keeps_execute h parameters).bind fun answer _ => utters_ofResult _

theorem keeps_stream {text : String} (h : Asking server options text composition) :
    Keeps server options (Connection.stream server text) := by
  refine (utters_call trivial).bind fun _ _ => ?_
  refine (keeps_execute h .null).bind fun answer _ => ?_
  exact (utters_ofResult _).bind fun columns _ => utters_pure _

/-! Queries whose names are parameters hold no back-tick. -/

theorem not_mem_toList_append {c : Char} {s t : String} (hs : c ∉ s.toList) (ht : c ∉ t.toList) :
    c ∉ (s ++ t).toList := by
  rw [String.toList_append, List.mem_append]
  exact not_or.mpr ⟨hs, ht⟩

theorem not_mem_accountFilter (sysAccount : Bool) :
    '`' ∉ (Catalog.accountFilter sysAccount).toList := by
  cases sysAccount with
  | true => decide
  | false => decide

/-- The names that the tables are restricted to are parameters. -/
theorem not_mem_tablesQuery (names : List Value) (sysAccount : Bool) :
    '`' ∉ (Catalog.tablesQuery names sysAccount).toList := by
  have hnames : '`' ∉ (String.intercalate ", " (names.map fun _ => "%s")).toList := by
    -- only the number of the names shows in the query, as a list of place holders
    induction names with
    | nil => decide
    | cons name names ih =>
      cases names with
      | nil => exact (by decide : '`' ∉ (String.intercalate ", " ["%s"]).toList)
      | cons next names =>
        rw [List.map_cons, List.map_cons, String.intercalate_cons_cons]
        exact not_mem_toList_append (by decide) ih
  refine not_mem_toList_append (not_mem_toList_append (by decide) (not_mem_accountFilter _)) ?_
  split
  · decide
  · exact not_mem_toList_append (not_mem_toList_append (by decide) hnames) (by decide)

theorem keeps_databaseType (database : Value) (sysAccount : Bool) :
    Keeps server options (Catalog.databaseType server database sysAccount) := by
  have hplain : '`' ∉ (Catalog.databaseTypeQuery sysAccount).toList :=
    not_mem_toList_append (by decide) (not_mem_accountFilter _)
  exact (keeps_query (.plain hplain) _).bind fun rows _ => utters_ofResult _

theorem keeps_databases : Keeps server options (Plan.databases server options) := by
  unfold Plan.databases
  split
  · exact (keeps_query (.plain (by decide)) .null).bind fun rows _ => utters_ofResult _
  · exact utters_ofResult _

variable {database : Value}

/-- The database is named in the query only where it is one of another account. -/
theorem keeps_tables (h : IsPlanned server options database) (type : Value) :
    Keeps server options (Plan.tables server options database type) := by
  unfold Plan.tables
  split
  · refine (keeps_query (.tables h) .null).bind fun rows _ => ?_
    refine (utters_ofResult _).bind fun names _ => ?_
    refine (utters_ofResult _).bind fun names _ => ?_
    exact (utters_ofResult _).bind fun _ _ => utters_pure _
  · refine (utters_ofResult _).bind fun names _ => ?_
    refine (keeps_query (.plain (not_mem_tablesQuery _ _)) _).bind fun rows _ => ?_
    refine (utters_ofResult _).bind fun tables _ => ?_
    exact (utters_ofResult _).bind fun _ _ => utters_pure _

theorem keeps_define {table : Table} (h : IsListed server options database table.name) :
    Keeps server options (Plan.define server database table) := by
  refine (utters_ofResult _).bind fun kind _ => ?_
  refine Utters.bind ?_ fun creation _ => utters_pure _
  exact (keeps_query (.tableCreation h) .null).bind fun rows _ => utters_ofResult _

theorem keeps_arrange (definitions : List Definition) :
    Keeps server options (Plan.arrange definitions) := by
  rw [Plan.arrange_eq]
  split
  · exact utters_throw _
  · refine (utters_ofResult _).bind fun records _ => ?_
    exact (utters_record records).bind fun _ _ => utters_pure _

/-- What planning lists is what planning asks about. -/
theorem keeps_make (h : IsPlanned server options database) :
    Keeps server options (Plan.make server options database) := by
  refine (keeps_databaseType database options.sysAccount).bind fun type htype => ?_
  refine (keeps_tables h type).bind fun listing hlisting => ?_
  -- what the catalog answered here is what makes a table a listed one
  have htype := (Catalog.isLookup_databaseType ..).isQuestion.asks_of_yields htype
  have hlisting := (Plan.isLookup_tables ..).isQuestion.asks_of_yields hlisting
  refine Utters.bind ?_ fun definitions _ =>
    (keeps_arrange definitions).bind fun _ _ => utters_pure _
  refine Utters.mapM fun table htable => keeps_define ?_
  exact ⟨h, type, listing, htype, hlisting, List.mem_map_of_mem htable⟩

/-- The tables of a plan are listed. -/
theorem isListed_of_mem (h : IsPlanned server options database) {plan : Plan}
    (hplan : IsPlan server options database plan) {definition : Definition}
    (hmem : definition ∈ plan.definitions) :
    IsListed server options database definition.table.name := by
  obtain ⟨listing, catalog, hlisting, hdefines, hdefinitions, -⟩ := hplan.definitions
  rw [hdefinitions] at hmem
  refine ⟨h, plan.type, listing, hplan.type, hlisting, ?_⟩
  rw [← hdefines.tables, List.map_map]
  exact List.mem_map_of_mem (mem_of_mem_sorted hmem)

section
variable {table : Value} (h : IsListed server options database table)
include h

/-- Rows are inserted into the table that they were read from. -/
theorem keeps_writeTable (budget : Sql.Budget) (columns : List Column)
    (source : RowSource Failure) :
    Keeps server options (Inserts.writeTable budget table columns source) := by
  have hinserts (groups : List (List Bytes)) : ∀ statement ∈
      groups.map (Statement.insert table.toText), IsWritten server options statement := by
    intro statement hstatement
    obtain ⟨group, -, rfl⟩ := List.mem_map.mp hstatement
    exact ⟨_, .insert h group⟩
  refine Utters.bind (utters_of_eq fun _ => ⟨rfl, rfl⟩) fun _ _ => ?_
  refine (utters_ofResult _).bind fun groups _ => ?_
  cases source.failure with
  | some failure =>
    -- rows that break off leave the statements that were full by then
    exact (utters_emitAll (hinserts groups.dropLast)).bind fun _ _ => utters_throw failure
  | none =>
    refine (utters_emitAll ?_).bind fun _ _ => (utters_record _).bind fun _ _ => utters_pure _
    refine List.forall_mem_append.mpr ⟨hinserts groups, ?_⟩
    exact List.forall_mem_singleton.mpr ⟨_, .endOfRows⟩

omit h in
theorem keeps_openFile (style : SideFile.Style) (database table : Value) :
    Keeps server options (SideFile.openFile style database table) := by
  refine Utters.bind (utters_of_eq fun _ => ⟨rfl, rfl⟩) fun session _ => ?_
  refine (utters_ofResult _).bind fun location _ => ?_
  refine Utters.bind (utters_of_eq fun _ => ⟨rfl, rfl⟩) fun _ _ => ?_
  exact (utters_ofResult _).bind fun delimiter _ => utters_pure _

/-- The rows go to a file, and the statement that loads it names their table. -/
theorem keeps_writeRows (style : SideFile.Style) (location : Location) (delimiter : Char)
    (columns : List Column) (source : RowSource Failure) :
    Keeps server options
      (SideFile.writeRows style location delimiter database table columns source) := by
  refine Utters.bind (utters_of_eq fun _ => ⟨rfl, rfl⟩) fun _ _ => ?_
  cases source.failure with
  | some failure => exact utters_of_eq fun _ => ⟨rfl, rfl⟩
  | none =>
    refine Utters.bind (utters_of_eq fun _ => ⟨rfl, rfl⟩) fun session _ => ?_
    refine (utters_emit ⟨_, .load h rfl⟩).bind fun _ _ => ?_
    exact (utters_record _).bind fun _ _ => utters_pure _

theorem keeps_tableRows (writer : Writer) :
    Keeps server options (tableRows server writer options.filter database table) := by
  refine (utters_record _).bind fun _ _ => ?_
  refine (keeps_stream (.rows h)).bind fun ⟨columns, source⟩ _ => ?_
  cases writer with
  | inserts budget =>
    exact (utters_call trivial).bind fun _ _ => keeps_writeTable h budget columns source
  | sideFiles style =>
    refine (keeps_openFile style database table).bind fun ⟨location, delimiter⟩ _ => ?_
    exact (utters_call trivial).bind fun _ _ =>
      keeps_writeRows h style location delimiter columns source

end

/-- A creation statement is written as it was given, so it has to be one that is listed. -/
theorem keeps_writeCreation {creation : Value} {spaced : Bool}
    (h : ∀ definition, creation = .text definition →
      IsWritten server options (.create definition spaced)) :
    Keeps server options (writeCreation creation spaced) := by
  refine (utters_ofResult _).bind fun definition hdefinition => utters_emit (h definition ?_)
  have hok := eq_ok_of_yields_ofResult hdefinition
  unfold creationText at hok
  split at hok
  · rw [Except.ok.inj hok]
  · cases hok

theorem keeps_headerCreation (h : IsPlanned server options database) (type : Value) :
    Keeps server options (headerCreation server database type) := by
  unfold headerCreation
  split
  · exact utters_pure _
  · exact (keeps_query (.databaseCreation h) .null).bind fun rows _ => utters_ofResult _

/-- What creates a database is given by the server, or made up of the name of the database. -/
theorem isWritten_of_yields_headerCreation (h : IsPlanned server options database) {type : Value}
    {definition : String}
    (hyields : Yields (headerCreation server database type) (.text definition)) :
    IsWritten server options (.create definition false) := by
  unfold headerCreation at hyields
  split at hyields
  · -- for a subscription the dump makes up the statement itself
    obtain ⟨session, hsession⟩ := hyields
    cases hsession
    exact ⟨_, .subscription h⟩
  · have hgiven := (Catalog.isLookup_databaseCreation ..).isQuestion.asks_of_yields hyields
    exact ⟨_, .given ⟨database, .inl hgiven⟩ false⟩

theorem keeps_writeHeader (h : IsPlanned server options database) (type : Value) :
    Keeps server options (writeHeader server database type) := by
  refine (keeps_headerCreation h type).bind fun creation hcreation => ?_
  refine (utters_emit ⟨_, .dropDatabase h⟩).bind fun _ _ => ?_
  refine Utters.bind (keeps_writeCreation ?_) fun _ _ => utters_emit ⟨_, .useDatabase h⟩
  rintro definition rfl
  exact isWritten_of_yields_headerCreation h hcreation

section
variable {definition : Definition}
  (h : IsListed server options database definition.table.name)
  (hgiven : Asks (Catalog.tableCreation server database definition.table.name)
    (.ok definition.creation))
include h hgiven

omit h in
theorem keeps_tableCreation (spaced : Bool) :
    Keeps server options (writeCreation definition.creation spaced) := by
  refine keeps_writeCreation fun text htext => ?_
  rw [htext] at hgiven
  exact ⟨_, .given ⟨database, .inr ⟨definition.table.name, hgiven⟩⟩ spaced⟩

theorem keeps_writeOrdinary (writer : Writer) :
    Keeps server options (writeOrdinary server options writer database definition) := by
  refine (utters_emit ⟨_, .dropTable h⟩).bind fun _ _ => ?_
  refine (keeps_tableCreation hgiven false).bind fun _ _ => ?_
  split
  · exact utters_pure _
  · exact (keeps_tableRows h writer).bind fun stats _ => utters_pure _

/-- The block of a table names that table only, whatever kind of table it is. -/
theorem keeps_countedBlock (writer : Writer) :
    Keeps server options (countedBlock server options writer database definition) := by
  have hblock : Keeps server options (writeBlock server options writer database definition) := by
    refine (utters_ofResult _).bind fun kind _ => ?_
    -- each kind has statements of its own before what creates the table
    cases kind with
    | ordinary => exact keeps_writeOrdinary h hgiven writer
    | external =>
      refine (utters_emit ⟨_, .externalMarker h⟩).bind fun _ _ => ?_
      refine (utters_emit ⟨_, .dropTable h⟩).bind fun _ _ => ?_
      exact (keeps_tableCreation hgiven true).bind fun _ _ => utters_pure _
    | view =>
      refine (utters_emit ⟨_, .dropView h⟩).bind fun _ _ => ?_
      exact (keeps_tableCreation hgiven true).bind fun _ _ => utters_pure _
  refine hblock.bind fun stats _ => ?_
  refine (utters_count _).bind fun _ _ => ?_
  exact (utters_record _).bind fun _ _ => utters_pure stats

end

/-- A section names its database and the tables of its plan, which are listed. -/
theorem keeps_writeSection (h : IsPlanned server options database) (writer : Writer) :
    Keeps server options (writeSection server options writer database) := by
  rw [writeSection_eq]
  refine (keeps_make h).bind fun plan hplan => ?_
  have hplan := Plan.isPlan_of_asks ((Plan.isLookup_make ..).isQuestion.asks_of_yields hplan)
  have hblocks : Keeps server options (do
      let tables ← plan.definitions.mapM (countedBlock server options writer database)
      count (·.addDatabase (.ofTables database tables))) := by
    refine Utters.bind (Utters.mapM fun definition hmem => ?_) fun tables _ => utters_count _
    exact keeps_countedBlock (isListed_of_mem h hplan hmem) (hplan.creation hmem) writer
  refine (utters_record _).bind fun _ _ => ?_
  split
  · exact (keeps_writeHeader h plan.type).bind fun _ _ => hblocks
  · exact hblocks

/-- **A dump sends and writes what is listed, also when it fails.** -/
theorem keeps_run (writer : Writer) : Keeps server options (run server options writer) := by
  refine keeps_databases.bind fun databases hdatabases => ?_
  have hdatabases := (Plan.isLookup_databases server options).isQuestion.asks_of_yields hdatabases
  refine (utters_record _).bind fun _ _ => ?_
  refine (utters_emit ⟨_, .switch false⟩).bind fun _ _ => ?_
  refine Utters.bind (Utters.forM fun database hmem => ?_) fun _ _ => ?_
  · exact keeps_writeSection ⟨databases, hdatabases, hmem⟩ writer
  · refine (utters_emit ⟨_, .switch true⟩).bind fun _ _ => ?_
    exact utters_of_eq fun _ => ⟨rfl, rfl⟩

/-- A list of tables is told in the log, where no name is read back. -/
theorem keeps_tell (plans : List (Value × List Definition)) :
    Keeps server options (DryRun.tell plans) := by
  have htable (table : Table) : Keeps server options (DryRun.tellTable table) :=
    (utters_ofResult _).bind fun kind _ => utters_record _
  refine Utters.forM fun ⟨database, definitions⟩ _ => ?_
  refine (utters_record _).bind fun _ _ => ?_
  have hlist : Keeps server options
      (definitions.forM fun definition => DryRun.tellTable definition.table) :=
    Utters.forM fun definition _ => htable definition.table
  split
  · exact (utters_record _).bind fun _ _ => hlist
  · exact hlist

theorem keeps_dryRun : Keeps server options (DryRun.run server options) := by
  refine (utters_record _).bind fun _ _ => ?_
  refine keeps_databases.bind fun databases hdatabases => ?_
  have hdatabases := (Plan.isLookup_databases server options).isQuestion.asks_of_yields hdatabases
  refine Utters.bind (Utters.mapM fun database hmem => ?_) fun plans _ => keeps_tell plans
  exact (keeps_make ⟨databases, hdatabases, hmem⟩).bind fun plan _ => utters_pure _

end

/-! ## Which names are read back -/

/-- A query that is composed as listed, whose names are read back unless one holds a back-tick. -/
def IsReadableQuery (server : Server) (options : Options) (text : String) : Prop :=
  ∃ composition, Asking server options text composition ∧ utf8 text = composition.bytes
    ∧ (composition.IsRead ↔ ∀ name ∈ composition.names, '`' ∉ name.toList)

/-- A statement of which the same is true. -/
def IsReadableStatement (server : Server) (options : Options) (statement : Statement) : Prop :=
  ∃ composition, Writing server options statement composition
    ∧ statement.bytes = composition.bytes
    ∧ (composition.IsRead ↔ ∀ name ∈ composition.names, '`' ∉ name.toList)

/--
**The names in what a dump sends and writes are read back exactly where none of them holds a
back-tick.**

They are the names of databases that are dumped and of tables that the catalog lists for them,
and this is so for all that a dump sends and writes, also when it fails. A dry run sends nothing
else.
-/
theorem run_names_read_back_iff (server : Server) (options : Options) (writer : Writer)
    (session : Session) :
    (∃ calls statements,
      (start (run server options writer) session).2.calls = session.calls ++ calls
      ∧ (start (run server options writer) session).2.output = session.output ++ statements
      ∧ (∀ text parameters, .execute text parameters ∈ calls →
        IsReadableQuery server options text)
      ∧ ∀ statement ∈ statements, IsReadableStatement server options statement)
    ∧ ∃ calls,
      (start (DryRun.run server options) session).2.calls = session.calls ++ calls
      ∧ ∀ text parameters, .execute text parameters ∈ calls →
        IsReadableQuery server options text := by
  have hquery (text : String) (parameters : Option (List Value))
      (h : IsSent server options (.execute text parameters)) :
      IsReadableQuery server options text := by
    obtain ⟨composition, hasking⟩ := h
    exact ⟨composition, hasking, hasking.utf8_eq, hasking.isApart.isRead_iff⟩
  constructor
  · obtain ⟨calls, statements, hcalls, houtput, hsent, hwritten⟩ := keeps_run writer session
    refine ⟨calls, statements, hcalls, houtput, ?_, ?_⟩
    · intro text parameters hmem
      exact hquery text parameters (hsent _ hmem)
    · intro statement hmem
      obtain ⟨composition, hwriting⟩ := hwritten statement hmem
      exact ⟨composition, hwriting, hwriting.bytes_eq, hwriting.isApart.isRead_iff⟩
  · obtain ⟨calls, -, hcalls, -, hsent, -⟩ := keeps_dryRun session
    refine ⟨calls, hcalls, ?_⟩
    intro text parameters hmem
    exact hquery text parameters (hsent _ hmem)

/-- A table can be named so that it closes its own name and goes on with a statement. -/
theorem names_with_backticks_are_misread :
    (Statement.insert "a`b" [utf8 "(1)"]).bytes = utf8 "INSERT INTO `a`b` VALUES (1);\n"
    ∧ Sql.Reader.names ["INSERT INTO "] (Statement.insert "a`b" [utf8 "(1)"]).bytes
      = some ([utf8 "a"], utf8 "b` VALUES (1);\n")
    ∧ Sql.Reader.names ["DROP TABLE IF EXISTS "]
        (Statement.dropTable "a`; DROP DATABASE `shop").bytes
      = some ([utf8 "a"], utf8 "; DROP DATABASE `shop`;\n")
    ∧ Sql.Reader.names ["SHOW CREATE TABLE ", "."]
        (utf8 ("SHOW CREATE TABLE " ++ Catalog.qualified (.text "a`.`b") (.text "c")))
      = some ([utf8 "a", utf8 "b"], utf8 ".`c`") := by
  decide

end Dump

end DatabaseDump
