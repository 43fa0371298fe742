import DatabaseDump.Proofs.TableRows
import DatabaseDump.Server.Script

/-!
# Sections and blocks

What a dump writes of a database is its section, and a section is made of a header and of
one block for each definition of the plan. The predicates here say what a complete piece
holds, and what is there of a piece that broke off. As with the rows of a table, they
mention the answers of the server only.

Every piece of work comes with one lemma: what it leaves when it comes to an end is
complete, and what it leaves when it fails is the piece as far as it got. What breaks off
is told for servers only whose creation statements are texts; what is complete has no others.
-/

namespace DatabaseDump

open Work

namespace Dump

/-! ## Creation statements -/

/-- What the server says creates a database or a table is always a text. -/
structure CreatesByTexts (server : Server) : Prop where
  database : ∀ database creation,
    Asks (Catalog.databaseCreation server database) (.ok creation) → ∃ s, creation = .text s
  table : ∀ database table creation,
    Asks (Catalog.tableCreation server database table) (.ok creation) → ∃ s, creation = .text s

/-- What the server gives is written as it is, and fails only if it is not a text. -/
theorem leaves_writeCreation {server : Server} (base : Location) {creation : Value}
    (htext : CreatesByTexts server → ∃ s, creation = .text s) (spaced : Bool) :
    Leaves base (writeCreation creation spaced)
      (fun _ written => ∃ s, creation = .text s ∧ written = ⟨[.create s spaced], []⟩)
      (fun _ _ => ¬CreatesByTexts server) := by
  have hquestion : IsQuestion (ofResult (creationText creation)) := (asks_ofResult _).isQuestion
  refine hquestion.leaves_bind ?_ ?_
  · intro failure hfailure htexts
    obtain ⟨s, rfl⟩ := htext htexts
    cases eq_of_asks_ofResult hfailure
  · intro s hs
    refine leaves_emit _ ⟨s, ?_, rfl⟩
    cases creation with
    | text t =>
      cases eq_of_asks_ofResult hs
      rfl
    | null | bool | int | float | list | object => cases eq_of_asks_ofResult hs

/-! ## Blocks -/

/--
The complete block of a definition. Its creation statement stands right behind what drops
the table; only an ordinary table whose rows are not left out has something after that.
-/
inductive IsBlock (server : Server) (options : Options) (base : Location) (database : Value)
    (definition : Definition) : Written → Prop
  | bare {creation : String} (hkind : definition.table.dumpedKind = .ok .ordinary)
      (hcreation : definition.creation = .text creation) (homit : options.omitData = true) :
      IsBlock server options base database definition
        ⟨[.dropTable definition.table.name.toText, .create creation false], []⟩
  | data {creation : String} {columns : List Column} {rows : List Row} {data : Written}
      (hkind : definition.table.dumpedKind = .ok .ordinary)
      (hcreation : definition.creation = .text creation) (homit : options.omitData = false)
      (hstream : Streams server options database definition.table.name
        (.ok (columns, ⟨rows, none⟩)))
      (hdata : IsData options base database definition.table.name columns rows data) :
      IsBlock server options base database definition
        (⟨[.dropTable definition.table.name.toText, .create creation false], []⟩ ++ data)
  | external {creation : String} (hkind : definition.table.dumpedKind = .ok .external)
      (hcreation : definition.creation = .text creation) :
      IsBlock server options base database definition
        ⟨[.externalMarker definition.table.name.toText,
          .dropTable definition.table.name.toText, .create creation true], []⟩
  | view {creation : String} (hkind : definition.table.dumpedKind = .ok .view)
      (hcreation : definition.creation = .text creation) :
      IsBlock server options base database definition
        ⟨[.dropView definition.table.name.toText, .create creation true], []⟩

/--
The statements of a block that broke off. Only the rows of an ordinary table can fail, when
what drops and what creates it has been written.
-/
inductive IsBrokenBlock (server : Server) (options : Options) (database : Value)
    (definition : Definition) (failure : Failure) : List Sql.Statement → Prop
  | data {creation : String} {data : List Sql.Statement}
      (hkind : definition.table.dumpedKind = .ok .ordinary)
      (hcreation : definition.creation = .text creation) (homit : options.omitData = false)
      (hdata : IsBrokenData server options database definition.table.name failure data) :
      IsBrokenBlock server options database definition failure
        ([.dropTable definition.table.name.toText, .create creation false] ++ data)

section
variable {server : Server} {options : Options} {writer : Writer}
  (hbudget : options.format = .sql → ∃ budget, options.bufferLength = .int budget)
  (hwriter : Writer.ofOptions options = .ok writer) (base : Location)
  {database : Value} {definition : Definition}
  (hasks : Asks (Catalog.tableCreation server database definition.table.name)
    (.ok definition.creation))
include hbudget hwriter hasks

theorem leaves_writeOrdinary (hkind : definition.table.dumpedKind = .ok .ordinary) :
    Leaves base (writeOrdinary server options writer database definition)
      (fun _ => IsBlock server options base database definition)
      (fun failure written => CreatesByTexts server →
        IsBrokenBlock server options database definition failure written.output) := by
  have hcreate := leaves_writeCreation base (fun htexts => htexts.table _ _ _ hasks) false
  refine .of_emit _ (hcreate.bind ?_ ?_)
  · intro failure written hnone htexts
    exact absurd htexts hnone
  · rintro _ _ ⟨creation, hcreation, rfl⟩
    cases homit : options.omitData with
    | true => exact leaves_pure _ (.bare hkind hcreation homit)
    | false =>
      -- only the rows can fail from here on, and then the pair before them is complete
      refine (leaves_tableRows hbudget hwriter base database definition.table.name).bind ?_ ?_
      · intro failure written hbroken _
        exact .data hkind hcreation homit hbroken
      · rintro stats written ⟨columns, rows, hstream, hdata⟩
        refine leaves_pure _ ?_
        rw [Written.append_nil, ← Written.append_assoc]
        exact .data hkind hcreation homit hstream hdata

theorem leaves_writeBlock {kind : TableKind} (hkind : definition.table.dumpedKind = .ok kind) :
    Leaves base (writeBlock server options writer database definition)
      (fun _ => IsBlock server options base database definition)
      (fun failure written => CreatesByTexts server →
        IsBrokenBlock server options database definition failure written.output) := by
  have hknown : Asks (ofResult definition.table.dumpedKind) (.ok kind) := by
    rw [hkind]
    exact asks_ofResult _
  have hcreate := leaves_writeCreation base (fun htexts => htexts.table _ _ _ hasks) true
  refine hknown.leaves_bind ?_
  cases kind with
  | ordinary => exact leaves_writeOrdinary hbudget hwriter base hasks hkind
  | external =>
    refine .of_emit _ (.of_emit _ (hcreate.bind ?_ ?_))
    · intro failure written hnone htexts
      exact absurd htexts hnone
    · rintro _ _ ⟨creation, hcreation, rfl⟩
      exact leaves_pure _ (.external hkind hcreation)
  | view =>
    refine .of_emit _ (hcreate.bind ?_ ?_)
    · intro failure written hnone htexts
      exact absurd htexts hnone
    · rintro _ _ ⟨creation, hcreation, rfl⟩
      exact leaves_pure _ (.view hkind hcreation)

/-- **A definition leaves its block.** -/
theorem leaves_countedBlock (hkind : ∃ kind, definition.table.dumpedKind = .ok kind) :
    Leaves base (countedBlock server options writer database definition)
      (fun _ => IsBlock server options base database definition)
      (fun failure written => CreatesByTexts server →
        IsBrokenBlock server options database definition failure written.output) := by
  obtain ⟨kind, hkind⟩ := hkind
  refine (leaves_writeBlock hbudget hwriter base hasks hkind).bind (fun _ _ hbroken => hbroken) ?_
  intro stats written hcomplete
  refine .of_count _ ((asks_record _).leaves_bind (leaves_pure stats ?_))
  rw [Written.append_nil]
  exact hcomplete

end

/-! ## Sections -/

/-- The header of a section; there is none when only some tables were asked for. -/
inductive IsHeader (server : Server) (options : Options) (database type : Value) :
    Written → Prop
  | none (hsome : options.allTables = false) : IsHeader server options database type {}
  | full {creation : String} (hall : options.allTables = true)
      (hcreation : Asks (headerCreation server database type) (.ok (.text creation))) :
      IsHeader server options database type
        ⟨[.dropDatabase database.toText, .create creation false,
          .useDatabase database.toText], []⟩

/-- The complete section of a database: its header, and the blocks of its plan in order. -/
inductive IsSection (server : Server) (options : Options) (base : Location) (database : Value) :
    Written → Prop
  | intro {plan : Plan} {header : Written} {blocks : List Written}
      (hplan : IsPlan server options database plan)
      (hheader : IsHeader server options database plan.type header)
      (hblocks : List.Forall₂ (IsBlock server options base database) plan.definitions blocks) :
      IsSection server options base database (header ++ .join blocks)

/--
The statements of a section that broke off: none when the plan or the header could not be
looked up, and otherwise all up to the block of the table whose rows failed.
-/
inductive IsBrokenSection (server : Server) (options : Options) (base : Location)
    (database : Value) (failure : Failure) : List Sql.Statement → Prop
  | plan (hplan : Asks (Plan.make server options database) (.error failure)) :
      IsBrokenSection server options base database failure []
  | header {plan : Plan} (hplan : IsPlan server options database plan)
      (hall : options.allTables = true)
      (hcreation : Asks (headerCreation server database plan.type) (.error failure)) :
      IsBrokenSection server options base database failure []
  | block {plan : Plan} {front back : List Definition} {definition : Definition}
      {header : Written} {blocks : List Written} {broken : List Sql.Statement}
      (hplan : IsPlan server options database plan)
      (hheader : IsHeader server options database plan.type header)
      (hsplit : plan.definitions = front ++ definition :: back)
      (hblocks : List.Forall₂ (IsBlock server options base database) front blocks)
      (hbroken : IsBrokenBlock server options database definition failure broken) :
      IsBrokenSection server options base database failure
        (header.output ++ blocks.flatMap Written.output ++ broken)

/-- What creates a database is known beforehand for one of another account, and is asked else. -/
theorem isLookup_headerCreation (server : Server) (database type : Value) :
    IsLookup (headerCreation server database type) := by
  unfold headerCreation
  split
  · exact (looksUp_pure _).isLookup
  · exact Catalog.isLookup_databaseCreation server database

theorem CreatesByTexts.header {server : Server} (h : CreatesByTexts server)
    {database type creation : Value}
    (hasks : Asks (headerCreation server database type) (.ok creation)) :
    ∃ s, creation = .text s := by
  unfold headerCreation at hasks
  split at hasks
  · cases (asks_pure _).unique hasks
    exact ⟨_, rfl⟩
  · exact h.database database creation hasks

theorem leaves_writeHeader (server : Server) {options : Options} (hall : options.allTables = true)
    (base : Location) (database type : Value) :
    Leaves base (writeHeader server database type)
      (fun _ => IsHeader server options database type)
      (fun failure written => CreatesByTexts server →
        Asks (headerCreation server database type) (.error failure) ∧ written = {}) := by
  refine (isLookup_headerCreation server database type).isQuestion.leaves_bind ?_ ?_
  · -- what creates the database is looked up before anything is written
    intro failure hasks _
    exact ⟨hasks, rfl⟩
  · intro creation hasks
    have hcreate := leaves_writeCreation base (fun htexts => htexts.header hasks) false
    refine .of_emit _ (hcreate.bind ?_ ?_)
    · intro failure written hnone htexts
      exact absurd htexts hnone
    · rintro _ _ ⟨s, rfl, rfl⟩
      exact leaves_emit _ (.full hall hasks)

section
variable {server : Server} {options : Options} {writer : Writer}
  (hbudget : options.format = .sql → ∃ budget, options.bufferLength = .int budget)
  (hwriter : Writer.ofOptions options = .ok writer) (base : Location)
include hbudget hwriter

/-- The blocks of a plan leave all of them, or all up to the one that breaks off. -/
theorem leaves_blocks {database : Value} {plan : Plan}
    (hplan : IsPlan server options database plan) :
    Leaves base (plan.definitions.mapM (countedBlock server options writer database))
      (fun _ written => ∃ blocks,
        List.Forall₂ (IsBlock server options base database) plan.definitions blocks
        ∧ written = .join blocks)
      (fun failure written => ∃ front definition back blocks broken,
        plan.definitions = front ++ definition :: back
        ∧ List.Forall₂ (IsBlock server options base database) front blocks
        ∧ (CreatesByTexts server →
          IsBrokenBlock server options database definition failure broken.output)
        ∧ written = .join blocks ++ broken) := by
  refine Leaves.mapM fun definition hmem => ?_
  exact leaves_countedBlock hbudget hwriter base (hplan.creation hmem)
    (hplan.kinds definition hmem)

/-- **A database leaves its section.** -/
theorem leaves_writeSection (database : Value) :
    Leaves base (writeSection server options writer database)
      (fun _ => IsSection server options base database)
      (fun failure written => CreatesByTexts server →
        IsBrokenSection server options base database failure written.output) := by
  rw [writeSection_eq]
  refine (Plan.isLookup_make server options database).isQuestion.leaves_bind ?_ ?_
  · -- the plan is looked up before anything is written
    intro failure hfailure _
    exact .plan hfailure
  · intro plan hmade
    have hplan := Plan.isPlan_of_asks hmade
    refine (asks_record _).leaves_bind ?_
    -- what comes after the header adds to it, and to nothing where there is none
    have hrest : ∀ header, IsHeader server options database plan.type header →
        Leaves base (do
          let tables ← plan.definitions.mapM (countedBlock server options writer database)
          count (·.addDatabase (.ofTables database tables)))
          (fun _ more => IsSection server options base database (header ++ more))
          (fun failure more => CreatesByTexts server →
            IsBrokenSection server options base database failure (header ++ more).output) := by
      intro header hheader
      refine (leaves_blocks hbudget hwriter base hplan).bind ?_ ?_
      · rintro failure _ ⟨front, definition, back, blocks, broken, hsplit, hblocks, hbroken, rfl⟩
        intro htexts
        rw [Written.output_append, Written.output_append, ← List.append_assoc]
        exact .block hplan hheader hsplit hblocks (hbroken htexts)
      · rintro tables _ ⟨blocks, hblocks, rfl⟩
        refine leaves_count _ ?_
        rw [Written.append_nil]
        exact .intro hplan hheader hblocks
    cases hall : options.allTables with
    | true =>
      refine (leaves_writeHeader server hall base database plan.type).bind ?_ ?_
      · intro failure written hbroken htexts
        obtain ⟨hfailure, rfl⟩ := hbroken htexts
        exact .header hplan hall hfailure
      · intro _ header hheader
        exact hrest header hheader
    | false => exact hrest {} (.none hall)

end

/-! ## The whole dump -/

/--
The statements of a dump that broke off: none when the databases are not known, and
otherwise the opening switch and all up to the section that failed.
-/
inductive IsBrokenRun (server : Server) (options : Options) (base : Location)
    (failure : Failure) : List Sql.Statement → Prop
  | databases (hdatabases : Asks (Plan.databases server options) (.error failure)) :
      IsBrokenRun server options base failure []
  | partway {front back : List Value} {database : Value} {sections : List Written}
      {broken : List Sql.Statement}
      (hdatabases : Asks (Plan.databases server options) (.ok (front ++ database :: back)))
      (hsections : List.Forall₂ (IsSection server options base) front sections)
      (hbroken : IsBrokenSection server options base database failure broken) :
      IsBrokenRun server options base failure
        ([.foreignKeyChecks false] ++ sections.flatMap Written.output ++ broken)

/--
**A dump leaves one section for each database between the two switches.** When it fails,
the sections before the one that failed are complete, and the closing switch is missing.

Only what is left by a failure depends on answers that are texts: with any other answer a
dump stops between a drop and the statement that should follow.
-/
theorem leaves_run {server : Server} {options : Options} {writer : Writer}
    (hbudget : options.format = .sql → ∃ budget, options.bufferLength = .int budget)
    (hwriter : Writer.ofOptions options = .ok writer) (base : Location) :
    Leaves base (run server options writer)
      (fun _ written => ∃ databases sections,
        Asks (Plan.databases server options) (.ok databases)
        ∧ List.Forall₂ (IsSection server options base) databases sections
        ∧ written = ⟨[.foreignKeyChecks false], []⟩ ++ .join sections
          ++ ⟨[.foreignKeyChecks true], []⟩)
      (fun failure written => CreatesByTexts server →
        IsBrokenRun server options base failure written.output) := by
  refine (Plan.isLookup_databases server options).isQuestion.leaves_bind ?_ ?_
  · intro failure hfailure _
    exact .databases hfailure
  · intro databases hdatabases
    refine (asks_record _).leaves_bind (.of_emit _ ?_)
    -- a turn that fails leaves the sections before it complete
    have hloop : Leaves base (databases.forM (writeSection server options writer)) _ _ :=
      .forM (.mapM fun database _ => leaves_writeSection hbudget hwriter base database)
    refine hloop.bind ?_ ?_
    · rintro failure _ ⟨front, database, back, sections, broken, rfl, hsections, hbroken, rfl⟩
      intro htexts
      rw [Written.output_append, Written.output_append, ← List.append_assoc]
      exact .partway hdatabases hsections (hbroken htexts)
    · rintro _ _ ⟨sections, hsections, rfl⟩
      refine .of_emit _ ?_
      intro session _
      refine ⟨{}, session.grows_refl, databases, sections, hdatabases, hsections, ?_⟩
      rw [Written.append_nil, Written.append_assoc]

end Dump

end DatabaseDump
