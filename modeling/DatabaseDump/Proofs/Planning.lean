import DatabaseDump.Dump.Run
import DatabaseDump.Proofs.Lookups
import DatabaseDump.Proofs.ViewOrder

/-!
# Plans

A database is planned by questions only, so its plan can be described by the answers alone,
without the session in which they were given. `IsPlan` does that: the type of the database, its
tables with what creates each of them, and their order.

A plan that came about is taken apart along the functions that made it: the outcome of the whole
is known, and since all parts are questions (`IsLookup.isQuestion`), so is the outcome of each
part (`Asks.exists_of_bind`).
-/

namespace DatabaseDump

open Work

/-! ## The order of definitions -/

namespace ViewOrder

/-- The views in the order of their creation. -/
def sortedViews (definitions : List Definition) : List Definition :=
  pick definitions (placedViews mentions definitions ++ stuckViews mentions definitions)

/-- No view is lost or doubled, also where views mention each other in a circle. -/
theorem sortedViews_perm (definitions : List Definition) :
    (sortedViews definitions).Perm (definitions.filter (·.table.isView)) := by
  rw [← pick_viewPositions]
  exact (views_perm mentions definitions).filterMap _

end ViewOrder

/-! ## What a plan is -/

namespace Dump

/-- Definitions for the tables of a listing, each with what the server says creates it. -/
structure Defines (server : Server) (database : Value) (listing : List Table)
    (definitions : List Definition) : Prop where
  tables : definitions.map Definition.table = listing
  creation : ∀ definition ∈ definitions,
    Asks (Catalog.tableCreation server database definition.table.name) (.ok definition.creation)

/--
What the catalog says of a database, put into order: its type, and one definition for each
table that it lists. All tables that are no views come first, in catalog order, and all
views after them, in the order that is found for views.
-/
structure IsPlan (server : Server) (options : Options) (database : Value) (plan : Plan) :
    Prop where
  type : Asks (Catalog.databaseType server database options.sysAccount) (.ok plan.type)
  definitions : ∃ listing catalog,
    Asks (Plan.tables server options database plan.type) (.ok listing)
    ∧ Defines server database listing catalog
    ∧ plan.definitions = (catalog.filter fun definition => !definition.table.isView)
      ++ ViewOrder.sortedViews catalog
    ∧ (ViewOrder.sortedViews catalog).Perm (catalog.filter fun definition =>
      definition.table.isView)
  kinds : ∀ definition ∈ plan.definitions, ∃ kind, definition.table.dumpedKind = .ok kind

/-- A plan has no definition that the catalog does not have. -/
theorem mem_of_mem_sorted {definition : Definition} {catalog : List Definition}
    (h : definition ∈ (catalog.filter fun definition => !definition.table.isView)
      ++ ViewOrder.sortedViews catalog) : definition ∈ catalog := by
  rcases List.mem_append.mp h with hother | hview
  · exact (List.mem_filter.mp hother).1
  · -- a sorted view is one of the views, which are definitions of the catalog
    exact (List.mem_filter.mp ((ViewOrder.sortedViews_perm catalog).mem_iff.mp hview)).1

/-- What creates a table of a plan is what the server says creates it, wherever it was moved. -/
theorem IsPlan.creation {server : Server} {options : Options} {database : Value} {plan : Plan}
    (h : IsPlan server options database plan) {definition : Definition}
    (hmem : definition ∈ plan.definitions) :
    Asks (Catalog.tableCreation server database definition.table.name)
      (.ok definition.creation) := by
  obtain ⟨listing, catalog, -, hdefines, hplan, -⟩ := h.definitions
  rw [hplan] at hmem
  exact hdefines.creation definition (mem_of_mem_sorted hmem)

/-! ## How a plan comes about -/

namespace Plan

/-- A table that was defined has a kind that can be dumped. -/
theorem defined_of_asks {server : Server} {database : Value} {table : Table}
    {definition : Definition} (h : Asks (define server database table) (.ok definition)) :
    definition.table = table ∧ (∃ kind, table.dumpedKind = .ok kind)
    ∧ Asks (Catalog.tableCreation server database table.name) (.ok definition.creation) := by
  have hcreate := (Catalog.isLookup_tableCreation server database table.name).isQuestion
  obtain ⟨kind, hkind, h⟩ := h.exists_of_bind (asks_ofResult _).isQuestion fun kind =>
    hcreate.bind fun creation => (asks_pure _).isQuestion
  obtain ⟨creation, hcreation, h⟩ := h.exists_of_bind hcreate
    fun creation => (asks_pure _).isQuestion
  cases (asks_pure (Definition.mk table creation)).unique h
  exact ⟨rfl, ⟨kind, eq_of_asks_ofResult hkind⟩, hcreation⟩

theorem defines_of_asks {server : Server} {database : Value} {listing : List Table}
    {definitions : List Definition}
    (h : Asks (listing.mapM (define server database)) (.ok definitions)) :
    Defines server database listing definitions
    ∧ ∀ definition ∈ definitions, ∃ kind, definition.table.dumpedKind = .ok kind := by
  have hdefined := h.forall₂_of_mapM fun table =>
    (isLookup_define server database table).isQuestion
  clear h
  -- induction over the tables and their definitions side by side
  induction hdefined with
  | nil => exact ⟨⟨rfl, by simp⟩, by simp⟩
  | @cons table definition listing definitions hdefine _ ih =>
    obtain ⟨rfl, hkind, hcreation⟩ := defined_of_asks hdefine
    obtain ⟨⟨rfl, hcreations⟩, hkinds⟩ := ih
    exact ⟨⟨rfl, List.forall_mem_cons.mpr ⟨hcreation, hcreations⟩⟩,
      List.forall_mem_cons.mpr ⟨hkind, hkinds⟩⟩

/-- The warnings do not show in the order that is found. -/
theorem arranged_of_asks {definitions arranged : List Definition}
    (h : Asks (arrange definitions) (.ok arranged)) :
    arranged = ViewOrder.pick definitions
      (ViewOrder.positions ViewOrder.mentions definitions).1 := by
  rw [arrange_eq] at h
  cases hsearch : ViewOrder.unsearchable? definitions with
  | some failure =>
    rw [hsearch] at h
    cases (asks_throw failure).unique h
  | none =>
    rw [hsearch] at h
    obtain ⟨records, -, h⟩ := h.exists_of_bind (asks_ofResult _).isQuestion fun records =>
      (asks_record records).isQuestion.bind fun _ => (asks_pure _).isQuestion
    obtain ⟨-, -, h⟩ := h.exists_of_bind (asks_record records).isQuestion fun _ =>
      (asks_pure _).isQuestion
    cases (asks_pure _).unique h
    rfl

/-- **A plan is made of what the catalog says.** -/
theorem isPlan_of_asks {server : Server} {options : Options} {database : Value} {plan : Plan}
    (h : Asks (make server options database) (.ok plan)) :
    IsPlan server options database plan := by
  -- the four questions of a plan, each with its answer
  obtain ⟨type, htype, h⟩ := h.exists_of_bind (Catalog.isLookup_databaseType ..).isQuestion
    fun type => ((isLookup_tables ..).bind fun tables =>
      isLookup_arrangeAll server database type tables).isQuestion
  obtain ⟨listing, hlisting, h⟩ := h.exists_of_bind (isLookup_tables ..).isQuestion
    fun tables => (isLookup_arrangeAll server database type tables).isQuestion
  obtain ⟨catalog, hcatalog, h⟩ := h.exists_of_bind
    (IsLookup.mapM (isLookup_define server database) listing).isQuestion
    fun definitions => (isLookup_arrange definitions).isQuestion.bind fun arranged =>
      (asks_pure _).isQuestion
  obtain ⟨arranged, harranged, h⟩ := h.exists_of_bind (isLookup_arrange catalog).isQuestion
    fun arranged => (asks_pure _).isQuestion
  cases (asks_pure (Plan.mk type arranged)).unique h
  -- the order only moves definitions, so what holds of each in the catalog still does
  obtain ⟨hdefines, hkinds⟩ := defines_of_asks hcatalog
  obtain rfl := (arranged_of_asks harranged).trans
    (ViewOrder.pick_positions ViewOrder.mentions catalog)
  exact ⟨htype, ⟨listing, catalog, hlisting, hdefines, rfl, ViewOrder.sortedViews_perm catalog⟩,
    fun definition hmem => hkinds definition (mem_of_mem_sorted hmem)⟩

end Plan

end Dump

end DatabaseDump
