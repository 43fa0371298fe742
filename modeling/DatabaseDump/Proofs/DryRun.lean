import DatabaseDump.Dump.DryRun
import DatabaseDump.Proofs.Accounts
import DatabaseDump.Proofs.Lookups
import DatabaseDump.Proofs.Runs

/-!
# What a dry run tells

A dry run plans like a dump and lists its plans in the log. A dump enters its tables in the
counts as they are written, and both come from the same plans: where a dump comes to an end,
a dry run does too, and its lists are those of the counts.

The kind of a table is looked up once more for its line in the list. This cannot fail, because
a table of a plan has a kind that can be dumped.
-/

namespace DatabaseDump

open Work

/-- A loop for its effect asks what one that collects asks. -/
theorem Work.IsQuestion.forM {α : Type} {f : α → Work Unit} (h : ∀ a, IsQuestion (f a))
    (list : List α) : IsQuestion (list.forM f) := by
  obtain ⟨outcome, hmapM⟩ := IsQuestion.mapM h list
  refine ⟨outcome.map fun _ => (), ⟨fun session => ?_, fun session => ?_⟩⟩
  · rw [start_forM, hmapM.outcome]
  · rw [start_forM]
    exact hmapM.asked session

/-- A kind that can be dumped can also be told. -/
theorem Table.listedKind_of_dumpedKind {table : Table} {kind : TableKind}
    (h : table.dumpedKind = .ok kind) :
    TableKind.ofCell? table.kind = some kind ∧ table.listedKind = .ok kind := by
  unfold dumpedKind at h
  unfold listedKind
  cases hcell : TableKind.ofCell? table.kind with
  | none =>
    rw [hcell] at h
    cases h
  | some found =>
    rw [hcell] at h
    cases h
    exact ⟨rfl, rfl⟩

namespace Dump.DryRun

/-! ## The lists of a dry run -/

/-- The line that opens a dry run. -/
def opening : Log.Record := ⟨.info, "DRY RUN MODE - No data will be dumped"⟩

/-- The line that opens the list of a database. -/
def heading (database : Value) : Log.Record :=
  ⟨.info, "Would dump database: " ++ database.toText⟩

/-- The line for a table, which shows its name and its kind. -/
def IsLineOf (table : TableStats) (line : Log.Record) : Prop :=
  ∃ kind, TableKind.ofCell? table.kind = some kind
    ∧ line = ⟨.info, "  - " ++ table.table.toText ++ " (" ++ kind.word ++ ")"⟩

/-- The list of a database: a line for each of its tables, in their order. -/
inductive IsListingOf (database : DatabaseStats) : List Log.Record → Prop
  | empty (hnone : database.tables = []) :
      IsListingOf database [heading database.name, ⟨.info, "  (no tables)"⟩]
  | tables {lines : List Log.Record} (hsome : database.tables ≠ [])
      (hlines : List.Forall₂ IsLineOf database.tables lines) :
      IsListingOf database (heading database.name :: lines)

/-- A table that is dumped has a line, with the kind that is entered in the counts. -/
theorem exists_line_of_block {definition : Definition} {block : Block}
    (h : block.IsOf definition) :
    ∃ line, IsLineOf block.stats line
      ∧ Traces (tellTable definition.table) (.ok ()) [] [line] := by
  obtain ⟨kind, -, -, hdumped, -⟩ := h.statements
  obtain ⟨hcell, hlisted⟩ := Table.listedKind_of_dumpedKind hdumped
  have hkind : Traces (ofResult definition.table.listedKind) (.ok kind) [] [] :=
    hlisted ▸ traces_ofResult _
  refine ⟨_, ⟨kind, h.kind ▸ hcell, rfl⟩, ?_⟩
  rw [h.table]
  exact hkind.bind_ok (traces_record _)

theorem exists_lines_of_blocks {definitions : List Definition} {blocks : List Block}
    (h : List.Forall₂ Block.IsOf definitions blocks) :
    ∃ lines, List.Forall₂ IsLineOf (blocks.map Block.stats) lines
      ∧ Traces (definitions.forM fun definition => tellTable definition.table) (.ok ()) []
        lines := by
  induction h with
  | nil => exact ⟨[], .nil, traces_pure ()⟩
  | cons hblock _ ih =>
    obtain ⟨line, hline, hfirst⟩ := exists_line_of_block hblock
    obtain ⟨lines, hlines, hrest⟩ := ih
    exact ⟨line :: lines, .cons hline hlines, hfirst.bind_ok hrest⟩

section
variable {server : Server} {options : Options}

/-- **A database that is dumped is listed with the tables that are counted for it.** -/
theorem exists_listing_of_part {part : Part} (h : part.IsOf server options) :
    ∃ lines, IsListingOf part.stats lines
      ∧ Traces (tellDatabase part.database part.plan.definitions) (.ok ()) [] lines := by
  obtain ⟨lines, hlines, htraces⟩ := exists_lines_of_blocks h.blocks
  have hlength := h.blocks.length_eq
  unfold tellDatabase
  -- a database without tables has a line that says so in the place of their lines
  cases hdefinitions : part.plan.definitions with
  | nil =>
    rw [hdefinitions] at htraces hlength
    have hnone : part.stats.tables = [] := by
      rw [Part.tables_stats, List.length_eq_zero_iff.mp hlength.symm, List.map_nil]
    refine ⟨_, .empty hnone, ?_⟩
    rw [Part.name_stats]
    exact (traces_record [heading part.database]).bind_ok
      ((traces_record [⟨.info, "  (no tables)"⟩]).bind_ok (traces_pure ()))
  | cons definition definitions =>
    rw [hdefinitions] at htraces hlength
    have hsome : part.stats.tables ≠ [] := by
      intro hnone
      rw [Part.tables_stats] at hnone
      rw [List.map_eq_nil_iff.mp hnone] at hlength
      cases hlength
    rw [← Part.tables_stats] at hlines
    refine ⟨_, .tables hsome hlines, ?_⟩
    rw [Part.name_stats]
    exact (traces_record [heading part.database]).bind_ok htraces

/-- The plan of a part, as a dry run tells it. -/
def toldPlan (part : Part) : Value × List Definition := (part.database, part.plan.definitions)

theorem exists_listings_of_parts {parts : List Part}
    (h : ∀ part ∈ parts, part.IsOf server options) :
    ∃ listings, List.Forall₂ IsListingOf (parts.map Part.stats) listings
      ∧ Traces (tell (parts.map toldPlan)) (.ok ()) [] listings.flatten := by
  induction parts with
  | nil => exact ⟨[], .nil, traces_pure ()⟩
  | cons part parts ih =>
    obtain ⟨hpart, hparts⟩ := List.forall_mem_cons.mp h
    obtain ⟨lines, hlines, hfirst⟩ := exists_listing_of_part hpart
    obtain ⟨listings, hlistings, hrest⟩ := ih hparts
    exact ⟨lines :: listings, .cons hlines hlistings, hfirst.bind_ok hrest⟩

/-! ## Whole dry runs -/

/-- The plans of a dry run are those of the parts. -/
theorem looksUp_toldPlans {parts : List Part} (h : ∀ part ∈ parts, part.IsOf server options) :
    LooksUp ((parts.map Part.database).mapM fun database => do
        return (database, (← Plan.make server options database).definitions))
      (.ok (parts.map toldPlan)) := by
  induction parts with
  | nil => exact looksUp_pure []
  | cons part parts ih =>
    obtain ⟨hpart, hparts⟩ := List.forall_mem_cons.mp h
    have hmake := (Plan.isLookup_make server options part.database).of_asks hpart.plan
    rw [List.map_cons, List.mapM_cons]
    exact (hmake.bind_ok (looksUp_pure (toldPlan part))).bind_ok
      ((ih hparts).bind_ok (looksUp_pure (toldPlan part :: parts.map toldPlan)))

/--
**Where a dump comes to an end, a dry run lists what is dumped.**

The lists are those of the counts: the databases, and for each of them the names and the kinds
of its tables, all in the order in which they are written. Nothing is written and no rows are
streamed.
-/
theorem run_lists_what_is_dumped {writer : Writer} {session after : Session} {stats : DumpStats}
    (hrun : start (Dump.run server options writer) session = (.ok stats, after)) :
    ∃ (parts : List Part) (listings : List (List Log.Record)) (warnings : List Log.Record)
      (calls : List Call),
      (∀ part ∈ parts, part.IsOf server options)
      ∧ session.Adds
        (.foreignKeyChecks false :: parts.flatMap Part.output ++ [.foreignKeyChecks true])
        (parts.map Part.stats) after
      ∧ List.Forall₂ IsListingOf (parts.map Part.stats) listings
      ∧ (∀ warning ∈ warnings, warning.level = .warning)
      ∧ .openCursor true ∉ calls
      ∧ ∀ before, ∃ told, start (run server options) before = (.ok (), told)
        ∧ told.output = before.output
        ∧ before.Asked told
        ∧ told.calls = before.calls ++ calls
        ∧ told.log = before.log ++ opening :: (warnings ++ listings.flatten) := by
  obtain ⟨parts, hdatabases, hparts, hadds, -⟩ := exists_parts_of_run_ok hrun
  obtain ⟨listings, hlistings, htell⟩ := exists_listings_of_parts hparts
  obtain ⟨calls, warnings, hresolve, hqueries, hwarnings⟩ :=
    (Plan.isLookup_databases server options).of_asks hdatabases
  -- the dry run is traced as a whole: its opening, the plans, and then the lists
  obtain ⟨more, others, hplan, hqueries', hwarnings'⟩ := looksUp_toldPlans hparts
  have htraces : Traces (run server options) (.ok ()) (calls ++ more)
      (opening :: (warnings ++ others ++ listings.flatten)) := by
    have hall : Traces (run server options) (.ok ()) (calls ++ (more ++ []))
        ([opening] ++ (warnings ++ (others ++ listings.flatten))) := by
      refine (traces_record [opening]).bind_ok ?_
      exact hresolve.bind_ok (hplan.bind_ok htell)
    rwa [List.append_nil, ← List.append_assoc warnings] at hall
  refine ⟨parts, listings, warnings ++ others, calls ++ more, hparts, hadds, hlistings,
    List.forall_mem_append.mpr ⟨hwarnings, hwarnings'⟩,
    (hqueries.append hqueries').openCursor_not_mem, fun before => ?_⟩
  have hasked := htraces.asked before
  exact ⟨_, htraces.start_eq before, hasked.grows.output.trans (List.append_nil _), hasked,
    htraces.calls before, htraces.log before⟩

end

/-- What a dry run of the shop lists: its tables and then its views, the one read from first. -/
def shopListing : List Log.Record :=
  heading (.text "shop") :: ["  - orders (ordinary)", "  - feed (external)", "  - recent (view)",
    "  - totals (view)"].map (⟨.info, ·⟩)

/-- The shop is listed as it is dumped. -/
theorem run_lists_what_is_dumped_shop :
    let options : Options := { databases := .list [.text "shop"] }
    let writer : Writer := .inserts (.bytes 1048576)
    let session : Session := { folder := { base := [] } }
    (start (run shop options) session).2.log = opening :: shopListing
    ∧ ∃ stats after, start (Dump.run shop options writer) session = (.ok stats, after)
      ∧ (after.stats.databases.flatMap DatabaseStats.tables).map
          (fun table => (table.table, table.kind))
        = [(.text "orders", .text "r"), (.text "feed", .text "e"), (.text "recent", .text "v"),
          (.text "totals", .text "v")]
      ∧ ∃ (parts : List Part) (listings : List (List Log.Record)) (warnings : List Log.Record)
        (calls : List Call),
        (∀ part ∈ parts, part.IsOf shop options)
        ∧ session.Adds
          (.foreignKeyChecks false :: parts.flatMap Part.output ++ [.foreignKeyChecks true])
          (parts.map Part.stats) after
        ∧ List.Forall₂ IsListingOf (parts.map Part.stats) listings
        ∧ (∀ warning ∈ warnings, warning.level = .warning)
        ∧ .openCursor true ∉ calls
        ∧ ∀ before, ∃ told, start (run shop options) before = (.ok (), told)
          ∧ told.output = before.output
          ∧ before.Asked told
          ∧ told.calls = before.calls ++ calls
          ∧ told.log = before.log ++ opening :: (warnings ++ listings.flatten) := by
  intro options writer session
  have hlog : (start (run shop options) session).2.log = opening :: shopListing := by
    decide +kernel
  have hended : (start (Dump.run shop options writer) session).1.isOk = true := by
    decide +kernel
  obtain ⟨stats, hrun⟩ := exists_start_eq_ok hended
  exact ⟨hlog, stats, _, hrun, by decide +kernel, run_lists_what_is_dumped hrun⟩

end Dump.DryRun

end DatabaseDump
