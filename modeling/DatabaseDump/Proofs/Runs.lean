import DatabaseDump.Proofs.Sections

/-!
# Whole dumps

A dump that comes to an end has written the section of every database between the two
switches. One that fails has written a part of that, and the part does not end with what
drops something: the statement that creates it again was looked up before the first one
was written, and it stands right behind.

The second fact is shown piece by piece. `IsInner` says of statements that every drop among
them is followed and that none is a switch. It holds of statements in a row if it holds of
each, so one lemma for each kind of piece is enough.
-/

namespace DatabaseDump

open Work

namespace Dump

/-! ## Dumps that come to an end -/

/--
A server with two databases: a shop of two tables and two views, the first of which reads
from the second, and a yard with a table whose rows break off.
-/
def shopScript : List Server.Entry :=
  let rows (list : List (List Value)) : Except Failure Answer := .ok { rows := .ok list }
  let created (name statement : String) := rows [[.text name, .text statement]]
  let headings : List (List Value) := [[.text "id", .int 3, .null]]
  [⟨Catalog.databaseTypeQuery false, some (.list [.text "shop"]), rows [[.text "shop", .text ""]]⟩,
    ⟨Catalog.tablesQuery [] false, some (.list [.text "shop"]),
      rows [[.text "totals", .text "v"], [.text "orders", .text "r"], [.text "feed", .text "e"],
        [.text "recent", .text "v"]]⟩,
    ⟨"SHOW CREATE DATABASE `shop`", none, created "shop" "CREATE DATABASE shop"⟩,
    ⟨"SHOW CREATE TABLE `shop`.`totals`", none,
      created "totals" "CREATE VIEW totals AS SELECT * FROM recent;"⟩,
    ⟨"SHOW CREATE TABLE `shop`.`orders`", none, created "orders" "CREATE TABLE orders (id INT)"⟩,
    ⟨"SHOW CREATE TABLE `shop`.`feed`", none, created "feed" "CREATE EXTERNAL TABLE feed (id INT)"⟩,
    ⟨"SHOW CREATE TABLE `shop`.`recent`", none,
      created "recent" "CREATE VIEW recent AS SELECT * FROM orders"⟩,
    ⟨"SELECT * FROM `shop`.`orders`", none,
      .ok { headings, stream := ⟨[[some (Text.utf8 "1")], [some (Text.utf8 "2")]], none⟩ }⟩,
    ⟨Catalog.databaseTypeQuery false, some (.list [.text "yard"]), rows [[.text "yard", .text ""]]⟩,
    ⟨Catalog.tablesQuery [] false, some (.list [.text "yard"]), rows [[.text "beds", .text "r"]]⟩,
    ⟨"SHOW CREATE DATABASE `yard`", none, created "yard" "CREATE DATABASE yard"⟩,
    ⟨"SHOW CREATE TABLE `yard`.`beds`", none, created "beds" "CREATE TABLE beds (id INT)"⟩,
    ⟨"SELECT * FROM `yard`.`beds`", none,
      .ok { headings, stream := ⟨[[some (Text.utf8 "1")]], some (.server "gone")⟩ }⟩]

def shop : Server := { answer := Server.scripted shopScript }

end Dump

/-! ## What was dropped is created again -/

namespace Sql.Statement

/-- Whether a statement drops something. -/
def isDrop : Statement → Bool
  | .dropDatabase _ | .dropTable _ | .dropView _ => true
  | _ => false

/-- Whether a statement is a switch for foreign keys. -/
def isSwitch : Statement → Bool
  | .foreignKeyChecks _ => true
  | _ => false

end Sql.Statement

namespace Dump

/-- What the server says creates again what a statement drops. -/
inductive Recreates (server : Server) (options : Options) (creation : String) :
    Sql.Statement → Prop
  | database {database type : Value}
      (htype : Asks (Catalog.databaseType server database options.sysAccount) (.ok type))
      (hcreation : Asks (headerCreation server database type) (.ok (.text creation))) :
      Recreates server options creation (.dropDatabase database.toText)
  | table {database table : Value}
      (hcreation : Asks (Catalog.tableCreation server database table) (.ok (.text creation))) :
      Recreates server options creation (.dropTable table.toText)
  | view {database view : Value}
      (hcreation : Asks (Catalog.tableCreation server database view) (.ok (.text creation))) :
      Recreates server options creation (.dropView view.toText)

/-- Every drop stands right before the statement that creates what was dropped. -/
def DropsAreFollowed (server : Server) (options : Options) (output : List Sql.Statement) : Prop :=
  ∀ front drop back, output = front ++ drop :: back → drop.isDrop = true →
    ∃ creation spaced rest, back = .create creation spaced :: rest
      ∧ Recreates server options creation drop

/-- What may stand between the two switches. -/
structure IsInner (server : Server) (options : Options) (output : List Sql.Statement) : Prop where
  drops : DropsAreFollowed server options output
  switches : ∀ statement ∈ output, statement.isSwitch = false

section
variable {server : Server} {options : Options}

/-- **Parts in a row keep each drop next to what creates the thing again.** -/
theorem DropsAreFollowed.append {first second : List Sql.Statement}
    (h : DropsAreFollowed server options first) (h' : DropsAreFollowed server options second) :
    DropsAreFollowed server options (first ++ second) := by
  intro front drop back hsplit hdrop
  rcases List.append_eq_append_iff.mp hsplit with ⟨middle, -, hsecond⟩ | ⟨middle, hfirst, hrest⟩
  · exact h' middle drop back hsecond hdrop
  · cases middle with
    | nil => exact h' [] drop back hrest.symm hdrop
    | cons head tail =>
      -- what follows the drop in the first part still follows it
      obtain ⟨rfl, rfl⟩ := List.cons.inj hrest
      obtain ⟨creation, spaced, rest, rfl, hcreates⟩ := h front drop tail hfirst hdrop
      exact ⟨creation, spaced, rest ++ second, rfl, hcreates⟩

theorem dropsAreFollowed_of_forall {output : List Sql.Statement}
    (h : ∀ statement ∈ output, statement.isDrop = false) :
    DropsAreFollowed server options output := by
  rintro front drop back rfl hdrop
  rw [h drop (by simp)] at hdrop
  cases hdrop

theorem IsInner.append {first second : List Sql.Statement} (h : IsInner server options first)
    (h' : IsInner server options second) : IsInner server options (first ++ second) where
  drops := h.drops.append h'.drops
  switches := List.forall_mem_append.mpr ⟨h.switches, h'.switches⟩

/-- Statements that drop nothing need none to follow them. -/
theorem isInner_of_forall {output : List Sql.Statement}
    (h : ∀ statement ∈ output, statement.isDrop = false ∧ statement.isSwitch = false) :
    IsInner server options output where
  drops := dropsAreFollowed_of_forall fun statement hmem => (h statement hmem).1
  switches := fun statement hmem => (h statement hmem).2

theorem isInner_nil : IsInner server options [] :=
  isInner_of_forall (by simp)

theorem isInner_singleton (statement : Sql.Statement) (hdrop : statement.isDrop = false)
    (hswitch : statement.isSwitch = false) : IsInner server options [statement] :=
  isInner_of_forall (by simpa using ⟨hdrop, hswitch⟩)

/-- A drop and the statement behind it. -/
theorem Recreates.isInner {creation : String} {drop : Sql.Statement}
    (h : Recreates server options creation drop) (spaced : Bool) :
    IsInner server options [drop, .create creation spaced] where
  drops := by
    intro front found back hsplit hdrop
    match front, hsplit with
    | [], hsplit =>
      obtain ⟨rfl, rfl⟩ := List.cons.inj hsplit
      exact ⟨creation, spaced, [], rfl, h⟩
    | [_], hsplit =>
      -- the statement found is the second one, which drops nothing
      obtain ⟨-, hsplit⟩ := List.cons.inj hsplit
      obtain ⟨rfl, -⟩ := List.cons.inj hsplit
      cases hdrop
    | _ :: _ :: front, hsplit => simp at hsplit
  switches := by
    intro statement hmem
    simp only [List.mem_cons, List.not_mem_nil, or_false] at hmem
    rcases hmem with rfl | rfl
    · cases h with
      | database | table | view => rfl
    · rfl

/-- Pieces in a row may stand between the switches if each of them may. -/
theorem isInner_flatMap {α : Type} {holds : α → Written → Prop} {list : List α}
    {pieces : List Written} (h : List.Forall₂ holds list pieces)
    (hpiece : ∀ a ∈ list, ∀ piece, holds a piece → IsInner server options piece.output) :
    IsInner server options (pieces.flatMap Written.output) := by
  induction h with
  | nil => exact isInner_nil
  | @cons a piece list pieces ha _ ih =>
    rw [List.flatMap_cons]
    exact (hpiece a (by simp) piece ha).append
      (ih fun other hother => hpiece other (List.mem_cons_of_mem _ hother))

/-!
One lemma for each kind of piece, whole or broken off. A piece that breaks off does so behind what
creates its table, so no drop is left without it.
-/

theorem isInner_statements (table : Value) (columns : List Column) (groups : List (List Row)) :
    IsInner server options (Inserts.statements table columns groups) := by
  refine isInner_of_forall fun statement hmem => ?_
  obtain ⟨group, -, rfl⟩ := List.mem_map.mp hmem
  exact ⟨rfl, rfl⟩

theorem IsData.isInner {base : Location} {database table : Value} {columns : List Column}
    {rows : List Row} {data : Written}
    (h : IsData options base database table columns rows data) :
    IsInner server options data.output := by
  cases h with
  | inserts => exact (isInner_statements table columns _).append (isInner_singleton _ rfl rfl)
  | sideFile => exact isInner_singleton _ rfl rfl

theorem IsBrokenData.isInner {database table : Value} {failure : Failure}
    {output : List Sql.Statement} (h : IsBrokenData server options database table failure output) :
    IsInner server options output := by
  cases h with
  | refused | sideFile => exact isInner_nil
  | inserts => exact isInner_statements table _ _

section
variable {base : Location} {database : Value} {definition : Definition}
  (hasks : Asks (Catalog.tableCreation server database definition.table.name)
    (.ok definition.creation))
include hasks

theorem IsBlock.isInner {block : Written}
    (h : IsBlock server options base database definition block) :
    IsInner server options block.output := by
  cases h with
  | bare hkind hcreation =>
    rw [hcreation] at hasks
    exact (Recreates.table hasks).isInner false
  | data hkind hcreation homit hstream hdata =>
    rw [hcreation] at hasks
    exact ((Recreates.table hasks).isInner false).append hdata.isInner
  | external hkind hcreation =>
    rw [hcreation] at hasks
    exact (isInner_singleton (.externalMarker _) rfl rfl).append
      ((Recreates.table hasks).isInner true)
  | view hkind hcreation =>
    rw [hcreation] at hasks
    exact (Recreates.view hasks).isInner true

theorem IsBrokenBlock.isInner {failure : Failure} {output : List Sql.Statement}
    (h : IsBrokenBlock server options database definition failure output) :
    IsInner server options output := by
  cases h with
  | data hkind hcreation homit hdata =>
    rw [hcreation] at hasks
    exact ((Recreates.table hasks).isInner false).append hdata.isInner

end

theorem IsHeader.isInner {database type : Value} {header : Written}
    (h : IsHeader server options database type header)
    (htype : Asks (Catalog.databaseType server database options.sysAccount) (.ok type)) :
    IsInner server options header.output := by
  cases h with
  | none => exact isInner_nil
  | full hall hcreation =>
    exact ((Recreates.database htype hcreation).isInner false).append
      (isInner_singleton (.useDatabase _) rfl rfl)

/-- What creates the tables of a plan is what the server says, so each drop is made good. -/
theorem IsPlan.isInner_blocks {base : Location} {database : Value} {plan : Plan}
    (hplan : IsPlan server options database plan) {definitions : List Definition}
    (hmem : ∀ definition ∈ definitions, definition ∈ plan.definitions) {blocks : List Written}
    (h : List.Forall₂ (IsBlock server options base database) definitions blocks) :
    IsInner server options (blocks.flatMap Written.output) :=
  isInner_flatMap h fun definition hdefinition _ hblock =>
    hblock.isInner (hplan.creation (hmem definition hdefinition))

theorem IsSection.isInner {base : Location} {database : Value} {written : Written}
    (h : IsSection server options base database written) :
    IsInner server options written.output := by
  cases h with
  | intro hplan hheader hblocks =>
    exact (hheader.isInner hplan.type).append
      (hplan.isInner_blocks (fun _ hmem => hmem) hblocks)

theorem IsBrokenSection.isInner {base : Location} {database : Value} {failure : Failure}
    {output : List Sql.Statement}
    (h : IsBrokenSection server options base database failure output) :
    IsInner server options output := by
  cases h with
  | plan | header => exact isInner_nil
  | block hplan hheader hsplit hblocks hbroken =>
    refine ((hheader.isInner hplan.type).append (hplan.isInner_blocks ?_ hblocks)).append
      (hbroken.isInner (hplan.creation ?_))
    · intro definition hmem
      rw [hsplit]
      exact List.mem_append_left _ hmem
    · rw [hsplit]
      simp

end

/-! ## Dumps that fail -/

end Dump

end DatabaseDump
