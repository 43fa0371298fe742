import DatabaseDump.Proofs.Sections

/-!
# The account of a dump

What a dump writes and what it counts belong together: the section of a database and its
entry in the counts come from one plan. `Part` keeps both, and `exists_parts_of_run` says of
every dump that comes to an end that its output and its counts are those of its parts.

Nothing is asked of the options here. A block is told in outline only, by what drops and what
creates the table and by the table that is filled, so that it does not matter how rows are
cut into statements.
-/

namespace DatabaseDump

open Work

/-- Statements were written and databases were entered in the counts. -/
structure Session.Adds (before : Session) (statements : List Sql.Statement)
    (databases : List DatabaseStats) (after : Session) : Prop where
  output : after.output = before.output ++ statements
  databases : after.stats.databases = before.stats.databases ++ databases

theorem Session.Adds.trans {first second third : Session} {statements more : List Sql.Statement}
    {databases others : List DatabaseStats} (h : first.Adds statements databases second)
    (h' : second.Adds more others third) :
    first.Adds (statements ++ more) (databases ++ others) third where
  output := by rw [h'.output, h.output, List.append_assoc]
  databases := by rw [h'.databases, h.databases, List.append_assoc]

/-- Nothing was written or entered. -/
theorem Session.adds_of_eq {before after : Session} (houtput : after.output = before.output)
    (hstats : after.stats.databases = before.stats.databases) : before.Adds [] [] after where
  output := by rw [houtput, List.append_nil]
  databases := by rw [hstats, List.append_nil]

theorem Session.Asked.adds {before after : Session} (h : before.Asked after) :
    before.Adds [] [] after :=
  Session.adds_of_eq (h.grows.output.trans (List.append_nil _)) (congrArg _ h.stats)

namespace Work

variable {α β γ : Type} {session after : Session}

/-- Work that came to an end went through both of its parts. -/
theorem exists_of_start_bind_ok {work : Work α} {next : α → Work β} {b : β}
    (h : start (work >>= next) session = (.ok b, after)) :
    ∃ a middle, start work session = (.ok a, middle) ∧ start (next a) middle = (.ok b, after) := by
  rw [start_bind] at h
  split at h
  · rename_i a middle hwork
    exact ⟨a, middle, hwork, h⟩
  · cases h

theorem IsQuestion.of_start_ok {work : Work α} {a : α} (h : IsQuestion work)
    (hstart : start work session = (.ok a, after)) :
    Asks work (.ok a) ∧ session.Adds [] [] after := by
  obtain ⟨outcome, hwork⟩ := h
  have houtcome := hwork.outcome session
  have hasked := hwork.asked session
  rw [hstart] at houtcome hasked
  obtain rfl : Except.ok a = outcome := houtcome
  exact ⟨hwork, hasked.adds⟩

/-- A question before the rest of the work adds nothing to it. -/
theorem IsQuestion.exists_of_bind_ok {work : Work α} {next : α → Work β} {b : β}
    (h : IsQuestion work) (hstart : start (work >>= next) session = (.ok b, after)) :
    ∃ a middle, Asks work (.ok a) ∧ session.Adds [] [] middle
      ∧ start (next a) middle = (.ok b, after) := by
  obtain ⟨a, middle, hwork, hnext⟩ := exists_of_start_bind_ok hstart
  obtain ⟨hasks, hadds⟩ := h.of_start_ok hwork
  exact ⟨a, middle, hasks, hadds, hnext⟩

theorem adds_of_emit_ok {statement : Sql.Statement}
    (h : start (emit statement) session = (.ok (), after)) : session.Adds [statement] [] after := by
  cases h
  exact ⟨rfl, (List.append_nil _).symm⟩

/--
A loop that came to an end leaves one piece for each turn, in a row. The pieces hold the
results of the turns too.
-/
theorem exists_pieces_of_mapM {f : α → Work β} (holds : α → γ → Prop) (value : γ → β)
    (statements : γ → List Sql.Statement) (databases : γ → List DatabaseStats)
    (hturn : ∀ a session b after, start (f a) session = (.ok b, after) →
      ∃ piece, holds a piece ∧ value piece = b
        ∧ session.Adds (statements piece) (databases piece) after)
    {list : List α} {results : List β} (h : start (list.mapM f) session = (.ok results, after)) :
    ∃ pieces, List.Forall₂ holds list pieces ∧ pieces.map value = results
      ∧ session.Adds (pieces.flatMap statements) (pieces.flatMap databases) after := by
  induction list generalizing session results with
  | nil =>
    cases h
    exact ⟨[], .nil, rfl, Session.adds_of_eq rfl rfl⟩
  | cons a list ih =>
    rw [List.mapM_cons] at h
    obtain ⟨b, first, hfirst, h⟩ := exists_of_start_bind_ok h
    obtain ⟨bs, last, hlast, h⟩ := exists_of_start_bind_ok h
    cases h
    obtain ⟨piece, hpiece, rfl, hadds⟩ := hturn a session b first hfirst
    obtain ⟨pieces, hpieces, rfl, hmore⟩ := ih hlast
    refine ⟨piece :: pieces, .cons hpiece hpieces, rfl, ?_⟩
    rw [List.flatMap_cons, List.flatMap_cons]
    exact hadds.trans hmore

theorem exists_of_start_forM_ok {f : α → Work Unit} {list : List α}
    (h : start (list.forM f) session = (.ok (), after)) :
    ∃ results, start (list.mapM f) session = (.ok results, after) := by
  rw [start_forM] at h
  obtain ⟨houtcome, hafter⟩ := Prod.mk.inj h
  cases hresults : (start (list.mapM f) session).1 with
  | ok results => exact ⟨results, Prod.ext hresults hafter⟩
  | error failure =>
    rw [hresults] at houtcome
    cases houtcome

end Work

namespace Dump

/-! ## Blocks in outline -/

/-- What stands before the statement that creates a table. -/
def dropping (name : String) : TableKind → List Sql.Statement
  | .ordinary => [.dropTable name]
  | .external => [.externalMarker name, .dropTable name]
  | .view => [.dropView name]

/-- Whether a statement fills a table, or stands behind those that do. -/
def fills (name : String) : Sql.Statement → Bool
  | .insert table _ => table == name
  | .load file => file.table == name
  | .endOfRows => true
  | _ => false

/-- What is written of one table, and what is counted of it. -/
structure Block where
  statements : List Sql.Statement
  stats : TableStats

/-- The block of a definition: only an ordinary table is filled. -/
structure Block.IsOf (definition : Definition) (block : Block) : Prop where
  statements : ∃ kind creation data, definition.table.dumpedKind = .ok kind
    ∧ definition.creation = .text creation
    ∧ block.statements = dropping definition.table.name.toText kind
      ++ .create creation (kind != .ordinary) :: data
    ∧ (∀ statement ∈ data, fills definition.table.name.toText statement = true)
    ∧ (kind ≠ .ordinary → data = [])
  table : block.stats.table = definition.table.name
  kind : block.stats.kind = definition.table.kind

section
variable {server : Server} {options : Options} {writer : Writer} {session after : Session}

/-- What creates something is a text once it has been written. -/
theorem exists_of_writeCreation_ok {creation : Value} {spaced : Bool}
    (h : start (writeCreation creation spaced) session = (.ok (), after)) :
    ∃ s, creation = .text s ∧ session.Adds [.create s spaced] [] after := by
  unfold writeCreation at h
  cases creation with
  | text s =>
    cases h
    exact ⟨s, rfl, rfl, (List.append_nil _).symm⟩
  | null | bool | int | float | list | object => cases h

theorem Inserts.exists_of_writeTable_ok {budget : Sql.Budget} {table : Value}
    {columns : List Column} {source : RowSource Failure} {stats : TableStats}
    (h : start (writeTable budget table columns source) session = (.ok stats, after)) :
    stats.table = table ∧ ∃ data, session.Adds data [] after
      ∧ ∀ statement ∈ data, fills table.toText statement = true := by
  obtain ⟨⟨⟩, lent, hlent, h⟩ := exists_of_start_bind_ok h
  obtain ⟨groups, middle, -, hgroups, h⟩ := (asks_ofResult _).isQuestion.exists_of_bind_ok h
  have hlent : session.Adds [] [] lent := by
    cases hlent
    exact Session.adds_of_eq rfl rfl
  have hbefore := hlent.trans hgroups
  cases hended : source.failure with
  | some failure =>
    -- rows that break off would have made the work fail
    rw [hended] at h
    cases h
  | none =>
    rw [hended] at h
    cases h
    refine ⟨rfl, groups.map (.insert table.toText) ++ [.endOfRows], ?_, ?_⟩
    · exact hbefore.trans ⟨rfl, (List.append_nil _).symm⟩
    · intro statement hmem
      rcases List.mem_append.mp hmem with hinsert | hend
      · obtain ⟨group, -, rfl⟩ := List.mem_map.mp hinsert
        exact beq_self_eq_true _
      · rw [List.mem_singleton.mp hend]
        rfl

theorem SideFile.adds_of_openFile_ok {style : SideFile.Style} {database table : Value}
    {opened : Location × Char}
    (h : start (SideFile.openFile style database table) session = (.ok opened, after)) :
    session.Adds [] [] after := by
  obtain ⟨found, middle, hget, h⟩ := exists_of_start_bind_ok h
  cases hget
  obtain ⟨location, middle, -, hfirst, h⟩ := (asks_ofResult _).isQuestion.exists_of_bind_ok h
  obtain ⟨⟨⟩, emptied, hput, h⟩ := exists_of_start_bind_ok h
  cases hput
  obtain ⟨delimiter, last, -, hlast, h⟩ := (asks_ofResult _).isQuestion.exists_of_bind_ok h
  cases h
  have hput : middle.Adds [] [] { middle with folder := middle.folder.put location [] } :=
    Session.adds_of_eq rfl rfl
  exact (hfirst.trans hput).trans hlast

theorem SideFile.exists_of_writeRows_ok {style : SideFile.Style} {location : Location}
    {delimiter : Char} {database table : Value} {columns : List Column}
    {source : RowSource Failure} {stats : TableStats}
    (h : start (SideFile.writeRows style location delimiter database table columns source) session
      = (.ok stats, after)) :
    stats.table = table ∧ ∃ file : Sql.Load, file.table = table.toText
      ∧ session.Adds [.load file] [] after := by
  obtain ⟨⟨⟩, written, hput, h⟩ := exists_of_start_bind_ok h
  cases hput
  cases hended : source.failure with
  | some failure =>
    rw [hended] at h
    cases h
  | none =>
    rw [hended] at h
    cases h
    exact ⟨rfl, _, rfl, rfl, (List.append_nil _).symm⟩

theorem exists_of_tableRows_ok {filter database table : Value} {stats : TableStats}
    (h : start (tableRows server writer filter database table) session = (.ok stats, after)) :
    stats.table = table ∧ ∃ data, session.Adds data [] after
      ∧ ∀ statement ∈ data, fills table.toText statement = true := by
  obtain ⟨⟨⟩, noted, -, hnoted, h⟩ := (asks_record _).isQuestion.exists_of_bind_ok h
  obtain ⟨⟨columns, source⟩, streamed, -, hstreamed, h⟩ :=
    (Connection.isQuestion_stream ..).exists_of_bind_ok h
  have hbefore := hnoted.trans hstreamed
  cases writer with
  | inserts budget =>
    obtain ⟨⟨⟩, closed, -, hclosed, h⟩ := (asks_call _).isQuestion.exists_of_bind_ok h
    obtain ⟨htable, data, hdata, hfills⟩ := Inserts.exists_of_writeTable_ok h
    exact ⟨htable, data, (hbefore.trans hclosed).trans hdata, hfills⟩
  | sideFiles style =>
    obtain ⟨⟨location, delimiter⟩, opened, hopen, h⟩ := exists_of_start_bind_ok h
    obtain ⟨⟨⟩, closed, -, hclosed, h⟩ := (asks_call _).isQuestion.exists_of_bind_ok h
    obtain ⟨htable, file, hfile, hload⟩ := SideFile.exists_of_writeRows_ok h
    refine ⟨htable, [.load file],
      ((hbefore.trans (SideFile.adds_of_openFile_ok hopen)).trans hclosed).trans hload, ?_⟩
    simpa [fills] using hfile

/-- What drops something is written right before what creates it. -/
theorem exists_of_created_ok {β : Type} {drop : Sql.Statement} {creation : Value}
    {spaced : Bool} {next : Work β} {b : β}
    (h : start (do emit drop; writeCreation creation spaced; next) session = (.ok b, after)) :
    ∃ s middle, creation = .text s ∧ session.Adds [drop, .create s spaced] [] middle
      ∧ start next middle = (.ok b, after) := by
  obtain ⟨⟨⟩, dropped, hdropped, h⟩ := exists_of_start_bind_ok h
  obtain ⟨⟨⟩, middle, hcreated, h⟩ := exists_of_start_bind_ok h
  obtain ⟨s, hcreation, hcreated⟩ := exists_of_writeCreation_ok hcreated
  exact ⟨s, middle, hcreation, (adds_of_emit_ok hdropped).trans hcreated, h⟩

/-- A block was written whose counts came back. -/
def WritesBlock (definition : Definition) (before : Session) (stats : TableStats)
    (after : Session) : Prop :=
  ∃ block : Block, block.IsOf definition ∧ block.stats = stats
    ∧ before.Adds block.statements [] after

theorem writesBlock_of_writeOrdinary_ok {database : Value} {definition : Definition}
    {stats : TableStats} (hkind : definition.table.dumpedKind = .ok .ordinary)
    (h : start (writeOrdinary server options writer database definition) session
      = (.ok stats, after)) : WritesBlock definition session stats after := by
  obtain ⟨creation, middle, hcreation, hcreated, h⟩ := exists_of_created_ok h
  cases homit : options.omitData with
  | true =>
    rw [homit] at h
    cases h
    refine ⟨⟨[.dropTable definition.table.name.toText, .create creation false], _⟩,
      ⟨?_, rfl, rfl⟩, rfl, hcreated⟩
    exact ⟨.ordinary, creation, [], hkind, hcreation, rfl, by simp, fun _ => rfl⟩
  | false =>
    rw [homit] at h
    obtain ⟨filled, _, hrows, h⟩ := exists_of_start_bind_ok h
    obtain ⟨htable, data, hdata, hfills⟩ := exists_of_tableRows_ok hrows
    cases h
    refine ⟨⟨[.dropTable definition.table.name.toText, .create creation false] ++ data,
      { filled with kind := definition.table.kind }⟩, ⟨?_, htable, rfl⟩, rfl,
      hcreated.trans hdata⟩
    exact ⟨.ordinary, creation, data, hkind, hcreation, rfl, hfills, fun hne => absurd rfl hne⟩

theorem writesBlock_of_writeBlock_ok {database : Value} {definition : Definition}
    {stats : TableStats}
    (h : start (writeBlock server options writer database definition) session
      = (.ok stats, after)) : WritesBlock definition session stats after := by
  obtain ⟨kind, middle, hknown, h⟩ := exists_of_start_bind_ok h
  rw [start_ofResult] at hknown
  obtain ⟨hkind, rfl⟩ := Prod.mk.inj hknown
  cases kind with
  | ordinary => exact writesBlock_of_writeOrdinary_ok hkind h
  | external =>
    obtain ⟨⟨⟩, marked, hmarked, h⟩ := exists_of_start_bind_ok h
    obtain ⟨creation, middle, hcreation, hcreated, h⟩ := exists_of_created_ok h
    cases h
    refine ⟨⟨[.externalMarker definition.table.name.toText,
      .dropTable definition.table.name.toText, .create creation true], _⟩, ⟨?_, rfl, rfl⟩, rfl,
      (adds_of_emit_ok hmarked).trans hcreated⟩
    exact ⟨.external, creation, [], hkind, hcreation, rfl, by simp, fun _ => rfl⟩
  | view =>
    obtain ⟨creation, middle, hcreation, hcreated, h⟩ := exists_of_created_ok h
    cases h
    refine ⟨⟨[.dropView definition.table.name.toText, .create creation true], _⟩,
      ⟨?_, rfl, rfl⟩, rfl, hcreated⟩
    exact ⟨.view, creation, [], hkind, hcreation, rfl, by simp, fun _ => rfl⟩

theorem writesBlock_of_countedBlock_ok {database : Value} {definition : Definition}
    {stats : TableStats}
    (h : start (countedBlock server options writer database definition) session
      = (.ok stats, after)) : WritesBlock definition session stats after := by
  obtain ⟨written, middle, hwritten, h⟩ := exists_of_start_bind_ok h
  obtain ⟨block, hblock, rfl, hadds⟩ := writesBlock_of_writeBlock_ok hwritten
  obtain ⟨⟨⟩, counted, hcounted, h⟩ := exists_of_start_bind_ok h
  obtain ⟨⟨⟩, noted, -, hnoted, h⟩ := (asks_record _).isQuestion.exists_of_bind_ok h
  cases h
  cases hcounted
  -- the counts in all grow, but no database is entered yet
  have hcounted : middle.Adds [] [] { middle with stats := middle.stats.addTable block.stats } :=
    Session.adds_of_eq rfl rfl
  have hall := (hadds.trans hcounted).trans hnoted
  simp only [List.append_nil] at hall
  exact ⟨block, hblock, rfl, hall⟩

/-! ## Sections and whole dumps -/

/-- What is written of one database, and what is counted of it. -/
structure Part where
  database : Value
  plan : Plan
  header : Written
  blocks : List Block

namespace Part

/-- The statements of the section. -/
def output (part : Part) : List Sql.Statement :=
  part.header.output ++ part.blocks.flatMap Block.statements

/-- The entry in the counts. -/
def stats (part : Part) : DatabaseStats :=
  .ofTables part.database (part.blocks.map Block.stats)

@[simp] theorem name_stats (part : Part) : part.stats.name = part.database :=
  DatabaseStats.name_ofTables _ _

@[simp] theorem tables_stats (part : Part) : part.stats.tables = part.blocks.map Block.stats :=
  DatabaseStats.tables_ofTables _ _

/-- The part of a dump that stands for a database: everything in it comes from its plan. -/
structure IsOf (server : Server) (options : Options) (part : Part) : Prop where
  plan : Asks (Plan.make server options part.database) (.ok part.plan)
  header : IsHeader server options part.database part.plan.type part.header
  blocks : List.Forall₂ Block.IsOf part.plan.definitions part.blocks

end Part

theorem exists_header_of_writeHeader_ok {database type : Value} (hall : options.allTables = true)
    (h : start (writeHeader server database type) session = (.ok (), after)) :
    ∃ header, IsHeader server options database type header
      ∧ session.Adds header.output [] after := by
  obtain ⟨creation, looked, hcreation, hlooked, h⟩ :=
    (isLookup_headerCreation server database type).isQuestion.exists_of_bind_ok h
  obtain ⟨s, middle, rfl, hcreated, h⟩ := exists_of_created_ok h
  exact ⟨_, .full hall hcreation, (hlooked.trans hcreated).trans (adds_of_emit_ok h)⟩

theorem exists_part_of_writeSection_ok {database : Value}
    (h : start (writeSection server options writer database) session = (.ok (), after)) :
    ∃ part : Part, part.database = database ∧ part.IsOf server options
      ∧ session.Adds part.output [part.stats] after := by
  rw [writeSection_eq] at h
  obtain ⟨plan, planned, hplan, hplanned, h⟩ :=
    (Plan.isLookup_make server options database).isQuestion.exists_of_bind_ok h
  obtain ⟨⟨⟩, noted, -, hnoted, h⟩ := (asks_record _).isQuestion.exists_of_bind_ok h
  have hbefore := hplanned.trans hnoted
  -- the blocks come behind the header, or behind nothing where there is none
  have hrest : ∀ header middle, IsHeader server options database plan.type header →
      noted.Adds header.output [] middle →
      start (do
        let tables ← plan.definitions.mapM (countedBlock server options writer database)
        count (·.addDatabase (.ofTables database tables))) middle = (.ok (), after) →
      ∃ part : Part, part.database = database ∧ part.IsOf server options
        ∧ session.Adds part.output [part.stats] after := by
    intro header middle hheader hmiddle h
    obtain ⟨tables, filled, hblocks, h⟩ := exists_of_start_bind_ok h
    obtain ⟨blocks, hof, rfl, hadds⟩ := exists_pieces_of_mapM
      Block.IsOf Block.stats Block.statements (fun _ => [])
      (fun definition _ _ _ hblock => writesBlock_of_countedBlock_ok hblock) hblocks
    cases h
    have hcounted : filled.Adds [] [.ofTables database (blocks.map Block.stats)]
        { filled with
          stats := filled.stats.addDatabase (.ofTables database (blocks.map Block.stats)) } :=
      ⟨(List.append_nil _).symm, rfl⟩
    have hall := (hbefore.trans hmiddle).trans (hadds.trans hcounted)
    have hnone : blocks.flatMap (fun _ => ([] : List DatabaseStats)) = [] := by simp
    rw [List.nil_append, List.append_nil, hnone] at hall
    exact ⟨⟨database, plan, header, blocks⟩, rfl, ⟨hplan, hheader, hof⟩, hall⟩
  cases hall : options.allTables with
  | true =>
    rw [hall] at h
    obtain ⟨⟨⟩, headed, hwritten, h⟩ := exists_of_start_bind_ok h
    obtain ⟨header, hheader, hadds⟩ := exists_header_of_writeHeader_ok hall hwritten
    exact hrest header headed hheader hadds h
  | false =>
    rw [hall] at h
    exact hrest {} noted (.none hall) (Session.adds_of_eq rfl rfl) h

/-- **A dump that comes to an end has written and counted its parts.** -/
theorem exists_parts_of_run_ok {stats : DumpStats}
    (h : start (run server options writer) session = (.ok stats, after)) :
    ∃ parts : List Part,
      Asks (Plan.databases server options) (.ok (parts.map Part.database))
      ∧ (∀ part ∈ parts, part.IsOf server options)
      ∧ session.Adds
        (.foreignKeyChecks false :: parts.flatMap Part.output ++ [.foreignKeyChecks true])
        (parts.map Part.stats) after
      ∧ stats = after.stats := by
  obtain ⟨databases, resolved, hdatabases, hresolved, h⟩ :=
    (Plan.isLookup_databases server options).isQuestion.exists_of_bind_ok h
  obtain ⟨⟨⟩, noted, -, hnoted, h⟩ := (asks_record _).isQuestion.exists_of_bind_ok h
  obtain ⟨⟨⟩, opened, hopened, h⟩ := exists_of_start_bind_ok h
  obtain ⟨⟨⟩, dumped, hdumped, hlast⟩ := exists_of_start_bind_ok h
  -- each turn of the loop leaves a part, which is the part of its database
  obtain ⟨results, hturns⟩ := exists_of_start_forM_ok hdumped
  obtain ⟨parts, hparts, -, hadds⟩ := exists_pieces_of_mapM
    (fun database part => part.IsOf server options ∧ part.database = database)
    (fun _ : Part => ()) Part.output (fun part => [part.stats])
    (fun database _ _ _ hsection => by
      obtain ⟨part, hdatabase, hof, hadds⟩ := exists_part_of_writeSection_ok hsection
      exact ⟨part, ⟨hof, hdatabase⟩, rfl, hadds⟩) hturns
  obtain ⟨hof, hnames⟩ := (List.forall₂_and_left _ _).mp hparts.flip
  obtain rfl : parts.map Part.database = databases := by
    have hsame := List.forall₂_map_left_iff.mpr hnames
    rwa [List.forall₂_eq_eq_eq] at hsame
  rw [← List.map_eq_flatMap] at hadds
  obtain ⟨⟨⟩, closed, hclosed, hended⟩ := exists_of_start_bind_ok hlast
  cases hended
  have hbefore := (hresolved.trans hnoted).trans (adds_of_emit_ok hopened)
  have hall := (hbefore.trans hadds).trans (adds_of_emit_ok hclosed)
  simp only [List.nil_append, List.append_nil, List.singleton_append] at hall
  exact ⟨parts, hdatabases, hof, hall, rfl⟩

end

end Dump

end DatabaseDump
