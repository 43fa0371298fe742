import DatabaseDump.Proofs.Sections

/-!
# Side files at the end of a dump

The rows of each table go to a file that is named after database and table. Different
tables can come to the same name, and then the later one takes the file over. So what a
side file holds at the end depends on all that was written after it.

`Carries` keeps the account. It lists the tables whose rows are in a piece of the dump, with
the statements that load them and the files they were written to, all in the same order. The
lists of pieces in a row are appended, and the last table at a place is the one whose rows
are found there.
-/

namespace DatabaseDump

open Work

/-- Whether a statement loads a side file. -/
def Sql.Statement.isLoad : Sql.Statement → Bool
  | .load _ => true
  | _ => false

namespace Dump

/-! ## Dumped tables -/

/-- How all side files of a dump are written and loaded. -/
structure Layout where
  base : Location
  escaper : Csv.Escaper
  delimiter : Char
  localFile : Bool

/--
The layout that options ask for in a working directory. A delimiter that is no single
character asks for none, and no side file is written then.
-/
structure Layout.IsOf (options : Options) (base : Location) (layout : Layout) : Prop where
  base : layout.base = base
  escaper : Csv.Escaper.ofSetting options.escaping options.escapeChars = .ok layout.escaper
  delimiter : ∀ delimiter, options.delimiter = .text (String.singleton delimiter) →
    delimiter = layout.delimiter
  localFile : layout.localFile = options.localFile

theorem Layout.exists_isOf {options : Options} {writer : Writer} (hformat : options.format = .csv)
    (hwriter : Writer.ofOptions options = .ok writer) (base : Location) :
    ∃ layout, IsOf options base layout := by
  rw [Writer.ofOptions, hformat] at hwriter
  obtain ⟨escaper, hescaper, -⟩ := exists_of_bind_eq_ok hwriter
  by_cases h : ∃ delimiter, options.delimiter = .text (String.singleton delimiter)
  · obtain ⟨delimiter, hdelimiter⟩ := h
    refine ⟨⟨base, escaper, delimiter, options.localFile⟩, rfl, hescaper, ?_, rfl⟩
    intro other hother
    rw [hdelimiter] at hother
    simpa using (congrArg String.toList (Value.text.inj hother)).symm
  · -- any character will do, since none is asked for
    refine ⟨⟨base, escaper, ',', options.localFile⟩, rfl, hescaper, ?_, rfl⟩
    intro delimiter hdelimiter
    exact absurd ⟨delimiter, hdelimiter⟩ h

/-- A table whose rows were dumped, with the columns and rows that the server streamed. -/
structure DumpedTable where
  database : Value
  table : Value
  columns : List Column
  rows : List Row

namespace DumpedTable

/-- The names of database and table. -/
def names (dumped : DumpedTable) : Value × Value := (dumped.database, dumped.table)

/-- The name of the side file without its ending. -/
def stem (dumped : DumpedTable) : String := SideFile.stem dumped.database dumped.table

/-- Where the side file lies. -/
def place (layout : Layout) (dumped : DumpedTable) : Location :=
  SideFile.place layout.base dumped.database dumped.table

/-- The statement that loads the side file. -/
def load (layout : Layout) (dumped : DumpedTable) : Sql.Statement :=
  .load ⟨(SideFile.path ⟨"/", layout.base⟩ dumped.database dumped.table).text,
    dumped.table.toText, String.singleton layout.delimiter, layout.localFile⟩

/-- The rows as they are encoded. -/
def content (layout : Layout) (dumped : DumpedTable) : Bytes :=
  Csv.fileBytes layout.escaper layout.delimiter (dumped.columns.map Column.tag) dumped.rows

/-- The side file is emptied first, and then it is written. -/
def files (layout : Layout) (dumped : DumpedTable) : List (Location × Bytes) :=
  [(dumped.place layout, []), (dumped.place layout, dumped.content layout)]

/-- The last table at a place is the one that is found there. -/
theorem latest_files (layout : Layout) (front : List DumpedTable) (dumped : DumpedTable)
    {back : List DumpedTable} (h : ∀ later ∈ back, later.place layout ≠ dumped.place layout)
    (held : Option Bytes) :
    latest ((front ++ dumped :: back).flatMap (files layout)) (dumped.place layout) held
      = some (dumped.content layout) := by
  have hback : ∀ file ∈ back.flatMap (files layout), file.1 ≠ dumped.place layout := by
    intro file hfile
    obtain ⟨later, hlater, hmem⟩ := List.mem_flatMap.mp hfile
    have hplace : file.1 = later.place layout := by
      simp only [files, List.mem_cons, List.not_mem_nil, or_false] at hmem
      rcases hmem with hempty | hwritten
      · rw [hempty]
      · rw [hwritten]
    rw [hplace]
    exact h later hlater
  -- neither what came before nor what comes after matters
  rw [List.flatMap_append, List.flatMap_cons, latest_append, latest_append,
    latest_of_forall_ne hback]
  simp [latest, files]

end DumpedTable

/-! ## Which tables are in a piece -/

/-- Whether the rows of a definition are dumped. -/
def hasRows (options : Options) (definition : Definition) : Bool :=
  !options.omitData && TableKind.ofCell? definition.table.kind == some .ordinary

/-- The tables among definitions whose rows are dumped, each with its database. -/
def rowTables (options : Options) (database : Value) (definitions : List Definition) :
    List (Value × Value) :=
  (definitions.filter (hasRows options)).map fun definition => (database, definition.table.name)

theorem ofCell?_of_dumpedKind {table : Table} {kind : TableKind}
    (h : table.dumpedKind = .ok kind) : TableKind.ofCell? table.kind = some kind := by
  unfold Table.dumpedKind at h
  split at h
  · rename_i found hfound
    cases h
    exact hfound
  · cases h

/-- The rows are what the server streamed to the end, and they could be laid out. -/
structure IsDumped (server : Server) (options : Options) (layout : Layout)
    (dumped : DumpedTable) : Prop where
  stream : Streams server options dumped.database dumped.table
    (.ok (dumped.columns, ⟨dumped.rows, none⟩))
  delimiter : options.delimiter = .text (String.singleton layout.delimiter)

/-- The piece holds the rows of these tables, and no others are loaded by it. -/
structure Carries (server : Server) (options : Options) (layout : Layout) (written : Written)
    (tables : List DumpedTable) : Prop where
  dumped : ∀ dumped ∈ tables, IsDumped server options layout dumped
  loads : written.output.filter Sql.Statement.isLoad = tables.map (DumpedTable.load layout)
  files : written.files = tables.flatMap (DumpedTable.files layout)

section
variable {server : Server} {options : Options} {layout : Layout}

theorem Carries.append {first second : Written} {tables more : List DumpedTable}
    (h : Carries server options layout first tables)
    (h' : Carries server options layout second more) :
    Carries server options layout (first ++ second) (tables ++ more) where
  dumped := List.forall_mem_append.mpr ⟨h.dumped, h'.dumped⟩
  loads := by rw [Written.output_append, List.filter_append, h.loads, h'.loads, List.map_append]
  files := by rw [Written.files_append, h.files, h'.files, List.flatMap_append]

theorem carries_nil {output : List Sql.Statement}
    (h : ∀ statement ∈ output, statement.isLoad = false) :
    Carries server options layout ⟨output, []⟩ [] where
  dumped := List.forall_mem_nil _
  loads := List.filter_eq_nil_iff.mpr fun statement hmem => by simp [h statement hmem]
  files := rfl

/-- The tables of a list of pieces are those of its parts. -/
theorem exists_carries_join {α : Type} {holds : α → Written → Prop}
    {names : α → List (Value × Value)} {list : List α} {pieces : List Written}
    (h : List.Forall₂ holds list pieces)
    (hpiece : ∀ a piece, holds a piece → ∃ tables,
      Carries server options layout piece tables ∧ tables.map DumpedTable.names = names a) :
    ∃ tables, Carries server options layout (.join pieces) tables
      ∧ tables.map DumpedTable.names = list.flatMap names := by
  induction h with
  | nil => exact ⟨[], carries_nil (List.forall_mem_nil _), rfl⟩
  | @cons a piece list pieces ha _ ih =>
    obtain ⟨tables, htables, hnames⟩ := hpiece a piece ha
    obtain ⟨more, hmore, hmoreNames⟩ := ih
    refine ⟨tables ++ more, ?_, ?_⟩
    · rw [Written.join_cons]
      exact htables.append hmore
    · rw [List.map_append, hnames, hmoreNames, List.flatMap_cons]

theorem flatMap_rowTables (database : Value) (definitions : List Definition) :
    definitions.flatMap (fun definition => rowTables options database [definition])
      = rowTables options database definitions := by
  induction definitions with
  | nil => rfl
  | cons definition definitions ih =>
    rw [List.flatMap_cons, ih, rowTables, rowTables, rowTables, ← List.map_append,
      ← List.filter_append, List.singleton_append]

section
variable {base : Location} (hformat : options.format = .csv)
  (hlayout : Layout.IsOf options base layout)
include hformat hlayout

theorem IsData.carries {database table : Value} {columns : List Column} {rows : List Row}
    {data : Written} (h : IsData options base database table columns rows data)
    (hstream : Streams server options database table (.ok (columns, ⟨rows, none⟩))) :
    Carries server options layout data [⟨database, table, columns, rows⟩] := by
  obtain ⟨layoutBase, escaper, delimiter, localFile⟩ := layout
  obtain ⟨rfl, hescaper, hdelimiter, rfl⟩ := hlayout
  cases h with
  | inserts hsql =>
    rw [hformat] at hsql
    cases hsql
  | sideFile _ hescaper' hdelimiter' =>
    obtain rfl := Except.ok.inj (hescaper'.symm.trans hescaper)
    obtain rfl := hdelimiter _ hdelimiter'
    exact ⟨List.forall_mem_singleton.mpr ⟨hstream, hdelimiter'⟩, rfl, rfl⟩

theorem IsBlock.exists_carries {database : Value} {definition : Definition} {block : Written}
    (h : IsBlock server options base database definition block) :
    ∃ tables, Carries server options layout block tables
      ∧ tables.map DumpedTable.names = rowTables options database [definition] := by
  cases h with
  | bare hkind hcreation homit =>
    refine ⟨[], carries_nil (by simp [Sql.Statement.isLoad]), ?_⟩
    simp [rowTables, hasRows, homit]
  | @data creation columns rows data hkind hcreation homit hstream hdata =>
    refine ⟨[⟨database, definition.table.name, columns, rows⟩], ?_, ?_⟩
    · exact (carries_nil (by simp [Sql.Statement.isLoad])).append
        (hdata.carries hformat hlayout hstream)
    · simp [rowTables, hasRows, homit, ofCell?_of_dumpedKind hkind, DumpedTable.names]
  | external hkind hcreation =>
    refine ⟨[], carries_nil (by simp [Sql.Statement.isLoad]), ?_⟩
    simp [rowTables, hasRows, ofCell?_of_dumpedKind hkind]
  | view hkind hcreation =>
    refine ⟨[], carries_nil (by simp [Sql.Statement.isLoad]), ?_⟩
    simp [rowTables, hasRows, ofCell?_of_dumpedKind hkind]

theorem IsSection.exists_carries {database : Value} {written : Written}
    (h : IsSection server options base database written) :
    ∃ plan, IsPlan server options database plan ∧ ∃ tables,
      Carries server options layout written tables
      ∧ tables.map DumpedTable.names = rowTables options database plan.definitions := by
  cases h with
  | @intro plan header blocks hplan hheader hblocks =>
    have hnone : Carries server options layout header [] := by
      cases hheader with
      | none => exact carries_nil (List.forall_mem_nil _)
      | full => exact carries_nil (by simp [Sql.Statement.isLoad])
    obtain ⟨tables, htables, hnames⟩ := exists_carries_join hblocks
      fun _ _ hblock => hblock.exists_carries hformat hlayout
    refine ⟨plan, hplan, tables, hnone.append htables, ?_⟩
    rw [hnames, flatMap_rowTables]

/-- The tables of all sections are those of all plans. -/
theorem exists_carries_sections {databases : List Value} {sections : List Written}
    (h : List.Forall₂ (IsSection server options base) databases sections) :
    ∃ planned : List (Value × Plan), planned.map Prod.fst = databases
      ∧ (∀ pair ∈ planned, IsPlan server options pair.1 pair.2)
      ∧ ∃ tables, Carries server options layout (.join sections) tables
        ∧ tables.map DumpedTable.names
          = planned.flatMap fun pair => rowTables options pair.1 pair.2.definitions := by
  induction h with
  | nil => exact ⟨[], rfl, List.forall_mem_nil _, [], carries_nil (List.forall_mem_nil _), rfl⟩
  | @cons database written databases sections hsection _ ih =>
    obtain ⟨plan, hplan, tables, htables, hnames⟩ := hsection.exists_carries hformat hlayout
    obtain ⟨planned, rfl, hplanned, more, hmore, hmoreNames⟩ := ih
    refine ⟨(database, plan) :: planned, rfl, List.forall_mem_cons.mpr ⟨hplan, hplanned⟩,
      tables ++ more, ?_, ?_⟩
    · rw [Written.join_cons]
      exact htables.append hmore
    · rw [List.map_append, hnames, hmoreNames, List.flatMap_cons]

end

end

/-! ## At the end of a dump -/

/--
What a dump to side files leaves of the tables whose rows are dumped. The output loads the
file of each of them once, in order. A table that has its place to itself from there on is
found in its file with all of its rows, unless log records go to that file. Which tables
share a place can be read off their names.
-/
structure LeavesSideFiles (server : Server) (options : Options) (session after : Session)
    (layout : Layout) (planned : List (Value × Plan)) (tables : List DumpedTable)
    (written : List Sql.Statement) : Prop where
  laidOut : layout.IsOf options session.folder.base
  databases : Asks (Plan.databases server options) (.ok (planned.map Prod.fst))
  plans : ∀ pair ∈ planned, IsPlan server options pair.1 pair.2
  names : tables.map DumpedTable.names
    = planned.flatMap fun pair => rowTables options pair.1 pair.2.definitions
  dumped : ∀ dumped ∈ tables, IsDumped server options layout dumped
  output : after.output = session.output ++ written
  loads : written.filter Sql.Statement.isLoad = tables.map (DumpedTable.load layout)
  files : ∀ front dumped back, tables = front ++ dumped :: back →
    (∀ journal ∈ session.journal, journal.location ≠ dumped.place layout) →
    (∀ later ∈ back, later.place layout ≠ dumped.place layout) →
    after.folder.read? (dumped.place layout) = some (dumped.content layout)
  places : ∀ dumped ∈ tables, ∀ other ∈ tables,
    '/' ∉ dumped.stem.toList → '/' ∉ other.stem.toList →
    (dumped.place layout = other.place layout ↔ dumped.stem = other.stem)

/-- **At the end of a dump a side file holds the rows of the last table that has its place.** -/
theorem run_leaves_side_files {options : Options} {server : Server} {writer : Writer}
    {session after : Session} {stats : DumpStats} (hformat : options.format = .csv)
    (hwriter : Writer.ofOptions options = .ok writer)
    (hrun : start (run server options writer) session = (.ok stats, after)) :
    ∃ layout planned tables written,
      LeavesSideFiles server options session after layout planned tables written := by
  obtain ⟨layout, hlayout⟩ := Layout.exists_isOf hformat hwriter session.folder.base
  -- the budget does not matter where nothing is inserted
  have hbudget : options.format = .sql → ∃ budget, options.bufferLength = .int budget := by
    intro hsql
    rw [hformat] at hsql
    cases hsql
  obtain ⟨_, hgrows, databases, sections, hdatabases, hsections, rfl⟩ :=
    (leaves_run hbudget hwriter _).of_start_ok rfl hrun
  obtain ⟨planned, rfl, hplanned, tables, htables, hnames⟩ :=
    exists_carries_sections hformat hlayout hsections
  have hswitch (on : Bool) : Carries server options layout ⟨[.foreignKeyChecks on], []⟩ [] :=
    carries_nil (by simp [Sql.Statement.isLoad])
  have hall := ((hswitch false).append htables).append (hswitch true)
  rw [List.nil_append, List.append_nil] at hall
  refine ⟨layout, planned, tables, _, hlayout, hdatabases, hplanned, hnames, htables.dumped,
    hgrows.output, hall.loads, ?_, ?_⟩
  · rintro front dumped back rfl hjournal hlast
    -- records only go to the log file, so the files are those of the tables
    rw [hgrows.files _ hjournal, hall.files]
    exact DumpedTable.latest_files layout front dumped hlast _
  · intro dumped _ other _ hdumped hother
    exact SideFile.place_eq_place_iff layout.base hdumped hother

/-- A server with two databases, and with one side file for the first table of each. -/
def clashScript : List Server.Entry :=
  let rows (list : List (List Value)) : Except Failure Answer := .ok { rows := .ok list }
  let created (name statement : String) := rows [[.text name, .text statement]]
  let streamed (cell : String) : Except Failure Answer :=
    .ok {
      headings := [[.text "id", .int 3, .null]]
      stream := ⟨[[some (Text.utf8 cell)]], none⟩ }
  [⟨Catalog.databaseTypeQuery false, some (.list [.text "a"]), rows [[.text "a", .text ""]]⟩,
    ⟨Catalog.tablesQuery [] false, some (.list [.text "a"]),
      rows [[.text "b_c", .text "r"], [.text "d", .text "r"]]⟩,
    ⟨"SHOW CREATE DATABASE `a`", none, created "a" "CREATE DATABASE a"⟩,
    ⟨"SHOW CREATE TABLE `a`.`b_c`", none, created "b_c" "CREATE TABLE b_c (id INT)"⟩,
    ⟨"SHOW CREATE TABLE `a`.`d`", none, created "d" "CREATE TABLE d (id INT)"⟩,
    ⟨"SELECT * FROM `a`.`b_c`", none, streamed "1"⟩,
    ⟨"SELECT * FROM `a`.`d`", none, streamed "2"⟩,
    ⟨Catalog.databaseTypeQuery false, some (.list [.text "a_b"]), rows [[.text "a_b", .text ""]]⟩,
    ⟨Catalog.tablesQuery [] false, some (.list [.text "a_b"]), rows [[.text "c", .text "r"]]⟩,
    ⟨"SHOW CREATE DATABASE `a_b`", none, created "a_b" "CREATE DATABASE a_b"⟩,
    ⟨"SHOW CREATE TABLE `a_b`.`c`", none, created "c" "CREATE TABLE c (id INT)"⟩,
    ⟨"SELECT * FROM `a_b`.`c`", none, streamed "3"⟩]

def clash : Server := { answer := Server.scripted clashScript }

def clashOptions : Options :=
  { databases := .list [.text "a", .text "a_b"], format := .csv }

theorem run_leaves_side_files_clash :
    let writer : Writer := .sideFiles {}
    let session : Session := { folder := { base := [] } }
    clashOptions.format = .csv
    ∧ Writer.ofOptions clashOptions = .ok writer
    ∧ ∃ stats after, start (run clash clashOptions writer) session = (.ok stats, after)
      ∧ ∃ layout planned tables written,
        LeavesSideFiles clash clashOptions session after layout planned tables written := by
  intro writer session
  have hwriter : Writer.ofOptions clashOptions = .ok writer := rfl
  have hended : (start (run clash clashOptions writer) session).1.isOk = true := by decide +kernel
  obtain ⟨stats, hrun⟩ := exists_start_eq_ok hended
  exact ⟨rfl, hwriter, stats, _, hrun, run_leaves_side_files rfl hwriter hrun⟩

/--
The rows of the first table are gone although the dump succeeds: its file is loaded, but it
holds the rows of the last table.
-/
theorem side_file_is_taken_over :
    let ended := start (run clash clashOptions (.sideFiles {})) { folder := { base := [] } }
    ended.1.isOk = true
    ∧ ended.2.output.filter Sql.Statement.isLoad
      = [.load ⟨"/a_b_c.csv", "b_c", ",", true⟩, .load ⟨"/a_d.csv", "d", ",", true⟩,
        .load ⟨"/a_b_c.csv", "c", ",", true⟩]
    ∧ (clash.answer (rowsQuery clashOptions.filter (.text "a") (.text "b_c")) .null).toOption.map
        (fun answer => answer.stream.rows) = some [[some (Text.utf8 "1")]]
    ∧ ended.2.folder.read? ["a_b_c.csv"] = some (Text.utf8 "3\n")
    ∧ ended.2.folder.read? ["a_b_c.csv"]
      ≠ some (Csv.fileBytes {} ',' [.integer] [[some (Text.utf8 "1")]]) := by
  decide +kernel

end Dump

end DatabaseDump
