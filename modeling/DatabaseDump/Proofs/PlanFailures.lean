import DatabaseDump.Proofs.TableRows
import DatabaseDump.Server.Script

/-!
# When planning fails

Planning asks for the type of a database, for its tables and for what creates each of them. It
stops at the first answer that it cannot go on with, so the failure that comes out depends on the
order in which answers are looked at: a table that is requested but missing counts before a table
that cannot be dumped, and a kind that is unknown before the question what creates the table.

For a server that answers in texts, `Answers` is all that planning hears of it, and `Answers.plan`
what it makes of that without any session. `IsPlannable` and `IsRefused` describe the answers with
which it succeeds and fails.
-/

namespace DatabaseDump

open Work

/-! ## Results in a row -/

section
variable {ε α β : Type} {f : α → Except ε β} {list : List α}

theorem bind_of_eq_ok {result : Except ε α} {a : α} (h : result = .ok a)
    (next : α → Except ε β) : result >>= next = next a := by
  rw [h]
  rfl

/-- All of a list succeeds exactly if each item does. -/
theorem exists_mapM_eq_ok_iff :
    (∃ results, list.mapM f = .ok results) ↔ ∀ a ∈ list, ∃ b, f a = .ok b := by
  induction list with
  | nil => exact ⟨fun _ a ha => absurd ha List.not_mem_nil, fun _ => ⟨[], rfl⟩⟩
  | cons a list ih =>
    rw [List.forall_mem_cons, ← ih, List.mapM_cons]
    constructor
    · rintro ⟨results, h⟩
      obtain ⟨b, hb, h⟩ := exists_of_bind_eq_ok h
      obtain ⟨bs, hbs, -⟩ := exists_of_bind_eq_ok h
      exact ⟨⟨b, hb⟩, bs, hbs⟩
    · rintro ⟨⟨b, hb⟩, bs, hbs⟩
      exact ⟨b :: bs, by rw [hb, hbs]; rfl⟩

/-- A list fails with the failure of its first item that fails. -/
theorem mapM_eq_error_iff {failure : ε} : list.mapM f = .error failure ↔
    ∃ before a after, list = before ++ a :: after ∧ (∀ b ∈ before, ∃ c, f b = .ok c)
      ∧ f a = .error failure := by
  induction list with
  | nil =>
    constructor
    · intro h
      cases h
    · rintro ⟨before, a, after, h, -⟩
      simp at h
  | cons first list ih =>
    rw [List.mapM_cons, bind_eq_error_iff]
    -- either the first item fails itself, or it succeeds and one behind it fails
    constructor
    · rintro (h | ⟨b, hb, h⟩)
      · exact ⟨[], first, list, rfl, by simp, h⟩
      · obtain h | ⟨bs, -, h⟩ := bind_eq_error_iff.mp h
        · obtain ⟨before, a, after, rfl, hbefore, ha⟩ := ih.mp h
          exact ⟨first :: before, a, after, rfl, List.forall_mem_cons.mpr ⟨⟨b, hb⟩, hbefore⟩, ha⟩
        · cases h
    · rintro ⟨_ | ⟨other, before⟩, a, after, h, hbefore, ha⟩
      · cases h
        exact .inl ha
      · cases h
        obtain ⟨⟨b, hb⟩, hbefore⟩ := List.forall_mem_cons.mp hbefore
        have hrest := ih.mpr ⟨before, a, after, rfl, hbefore, ha⟩
        exact .inr ⟨b, hb, bind_eq_error_iff.mpr (.inl hrest)⟩

theorem exists_of_mem_of_mapM_eq_ok {results : List β} (h : list.mapM f = .ok results) {b : β}
    (hb : b ∈ results) : ∃ a ∈ list, f a = .ok b := by
  induction list generalizing results with
  | nil =>
    cases h
    simp at hb
  | cons a list ih =>
    rw [List.mapM_cons] at h
    obtain ⟨first, hfirst, h⟩ := exists_of_bind_eq_ok h
    obtain ⟨rest, hrest, h⟩ := exists_of_bind_eq_ok h
    cases h
    obtain rfl | hb := List.mem_cons.mp hb
    · exact ⟨a, List.mem_cons_self, hfirst⟩
    · obtain ⟨other, hother, heq⟩ := ih hrest hb
      exact ⟨other, List.mem_cons_of_mem a hother, heq⟩

end

/-! ## Answers in texts -/

/-- What a server answers to all that planning may ask. -/
structure Answers where
  /-- Names and types of databases. -/
  types : Except Failure (List (String × String))
  /-- Names and kinds of tables. -/
  tables : Except Failure (List (String × String))
  /-- Names of the tables in a database of another account. -/
  shown : Except Failure (List String)
  /-- Rows about what creates a table. -/
  creation : (table : String) → Except Failure (List (List String))

open Connection (reply)

/-- A server gives these answers, with texts in the columns that it is asked for. -/
structure AnswersWith (server : Server) (options : Options) (database : Value)
    (requested : List String) (answers : Answers) : Prop where
  types : reply server (Catalog.databaseTypeQuery options.sysAccount) (.list [database])
    = answers.types.map (·.map fun row => [.text row.1, .text row.2])
  tables : reply server (Catalog.tablesQuery (requested.map .text) options.sysAccount)
      (.list (database :: requested.map .text))
    = answers.tables.map (·.map fun row => [.text row.1, .text row.2])
  shown : reply server ("SHOW TABLES FROM " ++ Sql.identifier database.toText)
    = answers.shown.map (·.map fun name => [.text name])
  creation : ∀ table,
    reply server ("SHOW CREATE TABLE " ++ Catalog.qualified database (.text table))
      = (answers.creation table).map (·.map (·.map .text))

namespace Answers

/-- The codes of the kinds of tables that can be dumped. -/
def kinds : List String := ["r", "e", "v"]

/--
The tables that are kept of a listing, names and kinds in catalog order: in a database of another
account those requested, if any are, all as ordinary tables, and else all but those of the server.
-/
def listing (answers : Answers) (requested : List String) (type : String) :
    Except Failure (List (String × String)) :=
  if type = "subscription" then do
    let names ← answers.shown
    return (names.filter fun name => requested = [] ∨ name ∈ requested).map fun name => (name, "r")
  else do
    let tables ← answers.tables
    return tables.filter fun table => !Catalog.isInternal (.text table.1)

/-- The kind of a table is known, and what creates it stands in the first row. -/
def IsDefinable (answers : Answers) (table : String × String) : Prop :=
  table.2 ∈ kinds ∧ ∃ first second cells rows,
    answers.creation table.1 = .ok ((first :: second :: cells) :: rows)

/-- Why a table cannot be defined. Its kind counts before what the server says creates it. -/
inductive IsUndefinable (answers : Answers) (table : String × String) : Failure → Prop
  | kind (h : table.2 ∉ kinds) : IsUndefinable answers table (.unsupportedKind table.1 table.2)
  | query {failure : Failure} (hkind : table.2 ∈ kinds)
      (h : answers.creation table.1 = .error failure) : IsUndefinable answers table failure
  | row (hkind : table.2 ∈ kinds) (h : answers.creation table.1 = .ok []) :
      IsUndefinable answers table .missingRow
  | cell {row : List String} {rows : List (List String)} (hkind : table.2 ∈ kinds)
      (h : answers.creation table.1 = .ok (row :: rows)) (hrow : row.length < 2) :
      IsUndefinable answers table .missingCell

/-- There is one such database, all tables requested of it are listed, and all can be defined. -/
def IsPlannable (answers : Answers) (requested : List String) : Prop :=
  ∃ name type kept, answers.types = .ok [(name, type)]
    ∧ answers.listing requested type = .ok kept
    ∧ (∀ name ∈ requested, name ∈ kept.map Prod.fst)
    ∧ ∀ table ∈ kept, answers.IsDefinable table

/-- Why a database cannot be planned: the first thing that is wrong, in the order of the cases. -/
inductive IsRefused (answers : Answers) (database : Value) (requested : List String) :
    Failure → Prop
  | typeQuery {failure : Failure} (h : answers.types = .error failure) :
      IsRefused answers database requested failure
  | database {rows : List (String × String)} (h : answers.types = .ok rows)
      (hrows : rows.length ≠ 1) :
      IsRefused answers database requested (.unknownDatabase database.toText)
  | listingQuery {name type : String} {failure : Failure}
      (htype : answers.types = .ok [(name, type)])
      (h : answers.listing requested type = .error failure) :
      IsRefused answers database requested failure
  | table {name type missing : String} {kept : List (String × String)}
      {before after : List String} (htype : answers.types = .ok [(name, type)])
      (hkept : answers.listing requested type = .ok kept)
      (hrequested : requested = before ++ missing :: after)
      (hbefore : ∀ name ∈ before, name ∈ kept.map Prod.fst) (h : missing ∉ kept.map Prod.fst) :
      IsRefused answers database requested (.unknownTable missing)
  | definition {name type : String} {table : String × String}
      {before after : List (String × String)} {failure : Failure}
      (htype : answers.types = .ok [(name, type)])
      (hkept : answers.listing requested type = .ok (before ++ table :: after))
      (hrequested : ∀ name ∈ requested, name ∈ (before ++ table :: after).map Prod.fst)
      (hbefore : ∀ table ∈ before, answers.IsDefinable table)
      (h : answers.IsUndefinable table failure) : IsRefused answers database requested failure

/-! ## Planning from the answers -/

/-- The type of the only database in an answer. -/
def type (answers : Answers) (database : Value) : Except Failure String := do
  match ← answers.types with
  | [(_, type)] => .ok type
  | _ => .error (.unknownDatabase database.toText)

/-- The tables of a listing, if all that are requested are among them. -/
def checked (requested : List String) (tables : List (String × String)) :
    Except Failure (List (String × String)) :=
  match requested.find? fun name => name ∉ tables.map Prod.fst with
  | some missing => .error (.unknownTable missing)
  | none => .ok tables

/-- The tables that are to be dumped. -/
def kept (answers : Answers) (requested : List String) (type : String) :
    Except Failure (List (String × String)) :=
  answers.listing requested type >>= checked requested

/-- The statement in an answer about what creates a table. -/
def statement (answers : Answers) (table : String) : Except Failure String := do
  match ← answers.creation table with
  | [] => .error .missingRow
  | (_ :: second :: _) :: _ => .ok second
  | _ => .error .missingCell

/-- A table as the catalog gives it. -/
def cells (table : String × String) : Table := ⟨.text table.1, .text table.2⟩

/-- A table with the statement that creates it, if its kind is known. -/
def definition (answers : Answers) (table : String × String) : Except Failure Definition :=
  if table.2 ∈ kinds then do return ⟨cells table, .text (← answers.statement table.1)⟩
  else .error (.unsupportedKind table.1 table.2)

/-- The plan that the answers lead to. -/
def plan (answers : Answers) (database : Value) (requested : List String) :
    Except Failure Dump.Plan := do
  let type ← answers.type database
  let tables ← answers.kept requested type
  let definitions ← tables.mapM answers.definition
  return ⟨.text type,
    ViewOrder.pick definitions (ViewOrder.positions ViewOrder.mentions definitions).1⟩

/-! ## Which answers lead to a plan -/

variable {answers : Answers} {database : Value} {requested : List String} {failure : Failure}

theorem type_eq_ok_iff {type : String} :
    answers.type database = .ok type ↔ ∃ name, answers.types = .ok [(name, type)] := by
  unfold Answers.type
  cases answers.types with
  | error other => exact ⟨nofun, nofun⟩
  | ok rows =>
    match rows with
    | [] => exact ⟨nofun, nofun⟩
    | [(name, found)] =>
      constructor
      · intro h
        cases h
        exact ⟨name, rfl⟩
      · rintro ⟨name, h⟩
        cases h
        rfl
    | _ :: _ :: _ => exact ⟨nofun, nofun⟩

theorem type_eq_error_iff : answers.type database = .error failure ↔
    answers.types = .error failure ∨ ∃ rows, answers.types = .ok rows ∧ rows.length ≠ 1
      ∧ failure = .unknownDatabase database.toText := by
  unfold Answers.type
  rw [bind_eq_error_iff]
  refine or_congr_right (exists_congr fun rows => and_congr_right fun _ => ?_)
  match rows with
  | [] => exact ⟨fun h => ⟨by simp, (Except.error.inj h).symm⟩, fun h => h.2 ▸ rfl⟩
  | [(name, found)] => exact ⟨nofun, fun h => absurd rfl h.1⟩
  | _ :: _ :: _ => exact ⟨fun h => ⟨by simp, (Except.error.inj h).symm⟩, fun h => h.2 ▸ rfl⟩

theorem checked_eq_ok_iff {tables kept : List (String × String)} :
    checked requested tables = .ok kept ↔
      (∀ name ∈ requested, name ∈ tables.map Prod.fst) ∧ kept = tables := by
  unfold checked
  cases hfind : requested.find? fun name => name ∉ tables.map Prod.fst with
  | some missing =>
    have hmissing : missing ∉ tables.map Prod.fst := by simpa using List.find?_some hfind
    exact ⟨nofun,
      fun h => absurd (h.1 missing (List.mem_of_find?_eq_some hfind)) hmissing⟩
  | none =>
    have hall : ∀ name ∈ requested, name ∈ tables.map Prod.fst := by
      simpa using List.find?_eq_none.mp hfind
    exact ⟨fun h => ⟨hall, (Except.ok.inj h).symm⟩, fun h => congrArg Except.ok h.2.symm⟩

theorem checked_eq_error_iff {tables : List (String × String)} :
    checked requested tables = .error failure ↔
      ∃ before missing after, requested = before ++ missing :: after
        ∧ (∀ name ∈ before, name ∈ tables.map Prod.fst) ∧ missing ∉ tables.map Prod.fst
        ∧ failure = .unknownTable missing := by
  have hfirst (missing : String) :
      (requested.find? fun name => name ∉ tables.map Prod.fst) = some missing ↔
        ∃ before after, requested = before ++ missing :: after
          ∧ (∀ name ∈ before, name ∈ tables.map Prod.fst) ∧ missing ∉ tables.map Prod.fst := by
    rw [List.find?_eq_some_iff_append]
    constructor
    · rintro ⟨hmissing, before, after, hrequested, hbefore⟩
      exact ⟨before, after, hrequested, by simpa using hbefore, by simpa using hmissing⟩
    · rintro ⟨before, after, hrequested, hbefore, hmissing⟩
      exact ⟨by simpa using hmissing, before, after, hrequested, by simpa using hbefore⟩
  unfold checked
  cases hfind : requested.find? fun name => name ∉ tables.map Prod.fst with
  | some found =>
    constructor
    · intro h
      cases h
      obtain ⟨before, after, hrequested, hbefore, hmissing⟩ := (hfirst found).mp hfind
      exact ⟨before, found, after, hrequested, hbefore, hmissing, rfl⟩
    · rintro ⟨before, missing, after, hrequested, hbefore, hmissing, rfl⟩
      cases hfind.symm.trans ((hfirst missing).mpr ⟨before, after, hrequested, hbefore, hmissing⟩)
      rfl
  | none =>
    refine ⟨nofun, ?_⟩
    rintro ⟨before, missing, after, hrequested, hbefore, hmissing, -⟩
    cases hfind.symm.trans ((hfirst missing).mpr ⟨before, after, hrequested, hbefore, hmissing⟩)

theorem exists_definition_eq_ok_iff {table : String × String} :
    (∃ definition, answers.definition table = .ok definition) ↔ answers.IsDefinable table := by
  unfold definition IsDefinable statement
  split
  · rename_i hkind
    rw [and_iff_right hkind]
    cases answers.creation table.1 with
    | error other => exact ⟨nofun, nofun⟩
    | ok rows =>
      match rows with
      | [] => exact ⟨nofun, nofun⟩
      | [] :: _ => exact ⟨nofun, nofun⟩
      | [_] :: _ => exact ⟨nofun, nofun⟩
      | (first :: second :: cells) :: rows =>
        exact ⟨fun _ => ⟨first, second, cells, rows, rfl⟩, fun _ => ⟨_, rfl⟩⟩
  · rename_i hkind
    exact ⟨nofun, fun h => absurd h.1 hkind⟩

theorem statement_eq_error_iff {table : String} : answers.statement table = .error failure ↔
    answers.creation table = .error failure
    ∨ answers.creation table = .ok [] ∧ failure = .missingRow
    ∨ ∃ row rows, answers.creation table = .ok (row :: rows) ∧ row.length < 2
      ∧ failure = .missingCell := by
  unfold statement
  rw [bind_eq_error_iff]
  refine or_congr_right ⟨?_, ?_⟩
  · rintro ⟨rows, hrows, h⟩
    match rows with
    | [] => exact .inl ⟨hrows, (Except.error.inj h).symm⟩
    | [] :: rows => exact .inr ⟨[], rows, hrows, by simp, (Except.error.inj h).symm⟩
    | [cell] :: rows => exact .inr ⟨[cell], rows, hrows, by simp, (Except.error.inj h).symm⟩
    | (_ :: _ :: _) :: _ => cases h
  · rintro (⟨hrows, rfl⟩ | ⟨row, rows, hrows, hrow, rfl⟩)
    · exact ⟨[], hrows, rfl⟩
    · refine ⟨row :: rows, hrows, ?_⟩
      match row with
      | [] => rfl
      | [_] => rfl
      | _ :: _ :: _ => exact absurd hrow (by simp)

theorem definition_eq_error_iff {table : String × String} :
    answers.definition table = .error failure ↔ answers.IsUndefinable table failure := by
  unfold definition
  by_cases hkind : table.2 ∈ kinds
  · rw [if_pos hkind, bind_eq_error_iff, statement_eq_error_iff]
    constructor
    · rintro ((h | ⟨h, rfl⟩ | ⟨row, rows, h, hrow, rfl⟩) | ⟨sql, -, h⟩)
      · exact .query hkind h
      · exact .row hkind h
      · exact .cell hkind h hrow
      · cases h
    · rintro (h | ⟨-, h⟩ | ⟨-, h⟩ | ⟨-, h, hrow⟩)
      · exact absurd hkind h
      · exact .inl (.inl h)
      · exact .inl (.inr (.inl ⟨h, rfl⟩))
      · exact .inl (.inr (.inr ⟨_, _, h, hrow, rfl⟩))
  · rw [if_neg hkind]
    constructor
    · intro h
      cases h
      exact .kind hkind
    · rintro (- | ⟨h, -⟩ | ⟨h, -⟩ | ⟨h, -, -⟩)
      · rfl
      · exact absurd h hkind
      · exact absurd h hkind
      · exact absurd h hkind

theorem kept_eq_ok_iff {type : String} {kept : List (String × String)} :
    answers.kept requested type = .ok kept ↔
      answers.listing requested type = .ok kept ∧ ∀ name ∈ requested, name ∈ kept.map Prod.fst := by
  unfold Answers.kept
  constructor
  · intro h
    obtain ⟨tables, hlisting, h⟩ := exists_of_bind_eq_ok h
    obtain ⟨hfound, rfl⟩ := checked_eq_ok_iff.mp h
    exact ⟨hlisting, hfound⟩
  · rintro ⟨hlisting, hfound⟩
    rw [bind_of_eq_ok hlisting]
    exact checked_eq_ok_iff.mpr ⟨hfound, rfl⟩

theorem exists_plan_eq_ok_iff :
    (∃ plan, answers.plan database requested = .ok plan) ↔ answers.IsPlannable requested := by
  unfold plan
  constructor
  · rintro ⟨plan, h⟩
    obtain ⟨type, htype, h⟩ := exists_of_bind_eq_ok h
    obtain ⟨kept, hkept, h⟩ := exists_of_bind_eq_ok h
    obtain ⟨definitions, hdefinitions, -⟩ := exists_of_bind_eq_ok h
    obtain ⟨name, htypes⟩ := type_eq_ok_iff.mp htype
    obtain ⟨hlisting, hfound⟩ := kept_eq_ok_iff.mp hkept
    exact ⟨name, type, kept, htypes, hlisting, hfound, fun table hmem =>
      exists_definition_eq_ok_iff.mp
        (exists_mapM_eq_ok_iff.mp ⟨definitions, hdefinitions⟩ table hmem)⟩
  · rintro ⟨name, type, kept, htypes, hlisting, hfound, hdefinable⟩
    obtain ⟨definitions, hdefinitions⟩ := exists_mapM_eq_ok_iff.mpr fun table hmem =>
      exists_definition_eq_ok_iff.mpr (hdefinable table hmem)
    rw [bind_of_eq_ok (type_eq_ok_iff.mpr ⟨name, htypes⟩),
      bind_of_eq_ok (kept_eq_ok_iff.mpr ⟨hlisting, hfound⟩), bind_of_eq_ok hdefinitions]
    exact ⟨_, rfl⟩

/-- Before the tables are looked at one by one, the listing may fail or miss a table. -/
theorem kept_eq_error_iff {type : String} : answers.kept requested type = .error failure ↔
    answers.listing requested type = .error failure
    ∨ ∃ kept, answers.listing requested type = .ok kept
      ∧ ∃ before missing after, requested = before ++ missing :: after
        ∧ (∀ name ∈ before, name ∈ kept.map Prod.fst) ∧ missing ∉ kept.map Prod.fst
        ∧ failure = .unknownTable missing := by
  unfold Answers.kept
  simp only [bind_eq_error_iff, checked_eq_error_iff]

/-- All the tables that are kept are defined, or the first that cannot be. -/
theorem definitions_eq_error_iff {kept : List (String × String)} :
    kept.mapM answers.definition = .error failure ↔
      ∃ before table after, kept = before ++ table :: after
        ∧ (∀ other ∈ before, answers.IsDefinable other)
        ∧ answers.IsUndefinable table failure := by
  simp only [mapM_eq_error_iff, exists_definition_eq_ok_iff, definition_eq_error_iff]

theorem plan_eq_error_iff : answers.plan database requested = .error failure ↔
    answers.IsRefused database requested failure := by
  unfold plan
  rw [bind_eq_error_iff, type_eq_error_iff]
  constructor
  · rintro ((h | ⟨rows, hrows, hlength, rfl⟩) | ⟨type, htype, h⟩)
    · exact .typeQuery h
    · exact .database hrows hlength
    obtain ⟨name, htypes⟩ := type_eq_ok_iff.mp htype
    obtain h | ⟨kept, hkept, h⟩ := bind_eq_error_iff.mp h
    · obtain h | ⟨tables, hlisting, before, missing, after, hrequested, hbefore, hmissing, rfl⟩ :=
        kept_eq_error_iff.mp h
      · exact .listingQuery htypes h
      · exact .table htypes hlisting hrequested hbefore hmissing
    · obtain ⟨hlisting, hfound⟩ := kept_eq_ok_iff.mp hkept
      obtain h | ⟨definitions, -, h⟩ := bind_eq_error_iff.mp h
      · obtain ⟨before, table, after, rfl, hbefore, htable⟩ := definitions_eq_error_iff.mp h
        exact .definition htypes hlisting hfound hbefore htable
      · cases h
  · intro h
    cases h with
    | typeQuery h => exact .inl (.inl h)
    | database h hrows => exact .inl (.inr ⟨_, h, hrows, rfl⟩)
    | listingQuery htype h =>
      refine .inr ⟨_, type_eq_ok_iff.mpr ⟨_, htype⟩, bind_eq_error_iff.mpr (.inl ?_)⟩
      exact kept_eq_error_iff.mpr (.inl h)
    | table htype hkept hrequested hbefore hmissing =>
      refine .inr ⟨_, type_eq_ok_iff.mpr ⟨_, htype⟩, bind_eq_error_iff.mpr (.inl ?_)⟩
      exact kept_eq_error_iff.mpr
        (.inr ⟨_, hkept, _, _, _, hrequested, hbefore, hmissing, rfl⟩)
    | definition htype hkept hrequested hbefore h =>
      refine .inr ⟨_, type_eq_ok_iff.mpr ⟨_, htype⟩, ?_⟩
      rw [bind_of_eq_ok (kept_eq_ok_iff.mpr ⟨hkept, hrequested⟩)]
      exact bind_eq_error_iff.mpr
        (.inl (definitions_eq_error_iff.mpr ⟨_, _, _, rfl, hbefore, h⟩))

end Answers

/-! ## What planning asks for -/

namespace Catalog

theorem isAmong_texts (name : String) (names : List String) :
    (Value.text name).isAmong (names.map .text) = decide (name ∈ names) := by
  have hequals (other : String) : (Value.text name).equals (.text other) = (name == other) := rfl
  rw [Value.isAmong, List.any_map, Bool.eq_iff_iff]
  simp [Function.comp_def, hequals]

theorem tablesOfRows_texts (rows : List (String × String)) :
    tablesOfRows (rows.map fun row => [.text row.1, .text row.2])
      = .ok ((rows.filter fun row => !isInternal (.text row.1)).map Answers.cells) := by
  have hrows : (rows.map fun row => [Value.text row.1, .text row.2]).mapM tableOfRow
      = .ok (rows.map Answers.cells) := by
    induction rows with
    | nil => rfl
    | cons row rows ih =>
      rw [List.map_cons, List.mapM_cons, ih]
      rfl
  rw [tablesOfRows, hrows]
  show Except.ok (List.filter _ (rows.map Answers.cells)) = _
  rw [List.filter_map]
  rfl

theorem firstCells_texts (names : List String) :
    firstCells (names.map fun name => [.text name]) = .ok (names.map .text) := by
  induction names with
  | nil => rfl
  | cons name names ih =>
    rw [firstCells, List.map_cons, List.mapM_cons]
    show (do
      let first ← Except.ok (Value.text name)
      let rest ← firstCells (names.map fun name => [.text name])
      return first :: rest) = _
    rw [ih]
    rfl

/-- The first name that is not found is the one that is complained of. -/
theorem checkFound_texts (found requested : List String) :
    checkFound (found.map .text) (requested.map .text)
      = match requested.find? fun name => name ∉ found with
        | some missing => .error (.unknownTable missing)
        | none => .ok () := by
  induction requested with
  | nil => rfl
  | cons name requested ih =>
    rw [List.map_cons, checkFound, isAmong_texts, List.find?_cons, ih]
    by_cases hname : name ∈ found
    · simp [hname, Value.isKey]
    · simp [hname, Value.isKey, Value.toText]

theorem checkRequested_texts (tables : List (String × String)) (requested : List String) :
    checkRequested (tables.map Answers.cells) (.list (requested.map .text))
      = (Answers.checked requested tables).map fun _ => () := by
  have hfound : (tables.map Answers.cells).map Table.name = (tables.map Prod.fst).map .text := by
    rw [List.map_map, List.map_map]
    rfl
  have hkeys : checkKeys ((tables.map Prod.fst).map Value.text) = .ok () := by
    have hnone : ((tables.map Prod.fst).map Value.text).find? (fun name => !name.isKey) = none := by
      simp [List.find?_eq_none, Value.isKey]
    rw [checkKeys, hnone]
  calc checkRequested (tables.map Answers.cells) (.list (requested.map .text))
      = (do
        checkKeys ((tables.map Prod.fst).map Value.text)
        checkFound ((tables.map Prod.fst).map Value.text) (requested.map Value.text)) := by
        rw [← hfound]
        rfl
    _ = checkFound ((tables.map Prod.fst).map Value.text) (requested.map Value.text) := by
        rw [hkeys]
        rfl
    _ = (Answers.checked requested tables).map fun _ => () := by
        rw [checkFound_texts, Answers.checked]
        cases requested.find? fun name => name ∉ tables.map Prod.fst with
        | some missing => rfl
        | none => rfl

section
variable {server : Server} {options : Options} {database : Value} {requested : List String}
  {answers : Answers}

theorem asks_databaseType (h : AnswersWith server options database requested answers) :
    Asks (databaseType server database options.sysAccount)
      ((answers.type database).map .text) := by
  have hquery := Connection.asks_query server (databaseTypeQuery options.sysAccount)
    (show parameterList (.list [database]) = .ok (some [database]) from rfl)
  rw [h.types] at hquery
  unfold Answers.type
  refine hquery.map_bind_map fun rows => ?_
  match rows with
  | [] => exact asks_ofResult _
  | [(name, type)] =>
    -- an empty type counts as none, and where there is none it is read as the empty type
    by_cases htype : type = ""
    · subst htype
      exact asks_ofResult _
    · have hread : readDatabaseType database [[.text name, .text type]] = .ok (.text type) := by
        simp [readDatabaseType, cell, Value.isGiven, htype]
      exact asks_ofResult_of_eq hread
  | _ :: _ :: _ => exact asks_ofResult _

/-- What is requested is looked up in the listing that was made. -/
theorem asks_checked (requested : List String) (tables : List (String × String)) :
    Asks (do
      ofResult (checkRequested (tables.map Answers.cells) (.list (requested.map .text)))
      return tables.map Answers.cells)
      ((Answers.checked requested tables).map (·.map Answers.cells)) := by
  rw [checkRequested_texts]
  cases hchecked : Answers.checked requested tables with
  | error failure => exact (asks_ofResult _).bind_error _
  | ok found =>
    obtain ⟨-, rfl⟩ := Answers.checked_eq_ok_iff.mp hchecked
    exact (asks_ofResult (.ok ())).bind_ok (asks_pure _)

theorem asks_tables (h : AnswersWith server options database requested answers)
    {type : String} (htype : type ≠ "subscription") :
    Asks (tables server database (.list (requested.map .text)) options.sysAccount)
      ((answers.kept requested type).map (·.map Answers.cells)) := by
  -- an empty request restricts nothing, so the names are those requested either way
  have hnames : restriction (.list (requested.map .text)) = .ok (requested.map .text) := by
    cases requested with
    | nil => rfl
    | cons name rest => rfl
  have hquery := Connection.asks_query server
    (tablesQuery (requested.map .text) options.sysAccount)
    (show parameterList (.list (database :: requested.map .text))
      = .ok (some (database :: requested.map .text)) from rfl)
  rw [h.tables] at hquery
  refine (asks_ofResult_of_eq hnames).bind_ok ?_
  rw [Answers.kept, Answers.listing, if_neg htype, bind_assoc]
  refine hquery.map_bind_map fun rows => ?_
  refine (asks_ofResult_of_eq (tablesOfRows_texts rows)).bind_ok ?_
  exact asks_checked requested _

theorem asks_subscriptionTables (h : AnswersWith server options database requested answers) :
    Asks (subscriptionTables server database (.list (requested.map .text)))
      ((answers.kept requested "subscription").map (·.map Answers.cells)) := by
  have hquery := Connection.asks_query server
    ("SHOW TABLES FROM " ++ Sql.identifier database.toText)
    (show parameterList .null = .ok none from rfl)
  rw [h.shown] at hquery
  rw [Answers.kept, Answers.listing, if_pos rfl, bind_assoc]
  refine hquery.map_bind_map fun names => ?_
  have hamong : requestedAmong (.list (requested.map .text)) (names.map .text)
      = .ok ((names.filter fun name => requested = [] ∨ name ∈ requested).map .text) := by
    cases requested with
    | nil => simp [requestedAmong, Value.isGiven]
    | cons first rest =>
      have hgiven : (Value.list ((first :: rest).map .text)).isGiven = true := rfl
      rw [requestedAmong, if_pos hgiven, Value.searchAll_list, List.filter_map]
      simp only [Function.comp_def, isAmong_texts]
      simp
  refine (asks_ofResult_of_eq (firstCells_texts names)).bind_ok ?_
  refine (asks_ofResult_of_eq hamong).bind_ok ?_
  have hcells (names : List String) :
      (names.map Value.text).map (fun name => (⟨name, .text TableKind.ordinary.code⟩ : Table))
        = (names.map fun name => (name, "r")).map Answers.cells := by
    rw [List.map_map, List.map_map]
    rfl
  rw [hcells]
  exact asks_checked requested _

theorem asks_tableCreation (h : AnswersWith server options database requested answers)
    (table : String) :
    Asks (tableCreation server database (.text table)) ((answers.statement table).map .text) := by
  have hquery := Connection.asks_query server
    ("SHOW CREATE TABLE " ++ qualified database (.text table))
    (show parameterList .null = .ok none from rfl)
  rw [h.creation] at hquery
  unfold Answers.statement
  refine hquery.map_bind_map fun rows => ?_
  match rows with
  | [] => exact asks_ofResult _
  | [] :: _ => exact asks_ofResult _
  | [_] :: _ => exact asks_ofResult _
  | (_ :: _ :: _) :: _ => exact asks_ofResult _

end

end Catalog

/-- Both the name and what creates the table are texts. -/
def Definition.IsInTexts (definition : Definition) : Prop :=
  (∃ name, definition.table.name = .text name) ∧ ∃ sql, definition.creation = .text sql

/-- A text can be searched for a text. -/
theorem ViewOrder.unsearchable?_eq_none {definitions : List Definition}
    (htexts : ∀ definition ∈ definitions, definition.IsInTexts) :
    ViewOrder.unsearchable? definitions = none := by
  unfold ViewOrder.unsearchable?
  refine List.findSome?_eq_none_iff.mpr fun ⟨view, i⟩ hview => ?_
  refine List.findSome?_eq_none_iff.mpr fun ⟨other, j⟩ hother => ?_
  obtain ⟨-, sql, hsql⟩ := htexts view (List.mem_filter.mp (List.fst_mem_of_mem_zipIdx hview)).1
  obtain ⟨⟨name, hname⟩, -⟩ :=
    htexts other (List.mem_filter.mp (List.fst_mem_of_mem_zipIdx hother)).1
  dsimp only
  rw [hsql, hname]
  split
  · rfl
  · rfl

namespace Dump.Plan

variable {server : Server} {options : Options} {database : Value} {requested : List String}
  {answers : Answers}

theorem asks_tables (h : AnswersWith server options database requested answers)
    (hrequested : options.tables = .list (requested.map .text)) (type : String) :
    Asks (tables server options database (.text type))
      ((answers.kept requested type).map (·.map Answers.cells)) := by
  rw [tables, hrequested]
  by_cases htype : type = "subscription"
  · rw [htype]
    exact Catalog.asks_subscriptionTables h
  · have hsubscription : Catalog.isSubscription (.text type) = false := by
      simp [Catalog.isSubscription, htype]
    rw [if_neg (by simp [hsubscription])]
    exact Catalog.asks_tables h htype

theorem dumpedKind_cells (table : String × String) :
    (∃ kind, (Answers.cells table).dumpedKind = .ok kind) ∧ table.2 ∈ Answers.kinds
    ∨ (Answers.cells table).dumpedKind = .error (.unsupportedKind table.1 table.2)
      ∧ table.2 ∉ Answers.kinds := by
  unfold Table.dumpedKind Answers.cells TableKind.ofCell?
  split
  · rename_i hkind
    split at hkind <;> simp_all [Answers.kinds]
  · rename_i hkind
    split at hkind <;> simp_all [Answers.kinds, Value.toText]

theorem asks_define (h : AnswersWith server options database requested answers)
    (table : String × String) :
    Asks (define server database (Answers.cells table)) (answers.definition table) := by
  unfold Answers.definition
  rcases dumpedKind_cells table with ⟨⟨kind, hkind⟩, hmem⟩ | ⟨hkind, hmem⟩
  · rw [if_pos hmem]
    refine (asks_ofResult_of_eq hkind).bind_ok ?_
    exact (Catalog.asks_tableCreation h table.1).bind_map fun sql => asks_pure _
  · rw [if_neg hmem]
    exact (asks_ofResult_of_eq hkind).bind_error _

/-- Definitions in texts can always be put into order. -/
theorem asks_arrange {definitions : List Definition}
    (htexts : ∀ definition ∈ definitions, definition.IsInTexts) :
    Asks (arrange definitions)
      (.ok (ViewOrder.pick definitions
        (ViewOrder.positions ViewOrder.mentions definitions).1)) := by
  -- a warning lists the names of stuck views, which are among the definitions
  obtain ⟨names, hnames⟩ := ViewOrder.exists_names
    (fun definition hdefinition => (htexts definition hdefinition).1)
    (ViewOrder.pick definitions (ViewOrder.stuckViews ViewOrder.mentions definitions))
    (fun definition hdefinition => by
      obtain ⟨i, -, hi⟩ := List.mem_filterMap.mp hdefinition
      exact List.mem_of_getElem? hi)
  rw [arrange_eq, ViewOrder.unsearchable?_eq_none htexts]
  refine (asks_ofResult_of_eq (ViewOrder.warnings_of_texts hnames)).bind_ok ?_
  exact (asks_record _).bind_ok (asks_pure _)

theorem isInTexts_of_definition {table : String × String} {definition : Definition}
    (h : answers.definition table = .ok definition) : definition.IsInTexts := by
  unfold Answers.definition at h
  split at h
  · obtain ⟨sql, -, h⟩ := exists_of_bind_eq_ok h
    cases h
    exact ⟨⟨table.1, rfl⟩, sql, rfl⟩
  · cases h

/-- **A plan comes of the answers alone.** -/
theorem asks_make (h : AnswersWith server options database requested answers)
    (hrequested : options.tables = .list (requested.map .text)) :
    Asks (make server options database) (answers.plan database requested) := by
  refine (Catalog.asks_databaseType h).bind_map fun type => ?_
  refine (asks_tables h hrequested type).bind_map fun kept => ?_
  have hdefine := Asks.mapM_map (asks_define h) kept
  cases hdefinitions : kept.mapM answers.definition with
  | error failure =>
    rw [hdefinitions] at hdefine
    exact hdefine.bind_error _
  | ok definitions =>
    have htexts : ∀ definition ∈ definitions, definition.IsInTexts := by
      intro definition hmem
      obtain ⟨table, -, htable⟩ := exists_of_mem_of_mapM_eq_ok hdefinitions hmem
      exact isInTexts_of_definition htable
    rw [hdefinitions] at hdefine
    refine hdefine.bind_ok ?_
    exact (asks_arrange htexts).bind_ok (asks_pure _)

/--
**When a database can be planned, and what is complained of first when it cannot.**

For a server that answers in texts, planning succeeds exactly with answers that are plannable, and
fails with exactly the failures with which they are refused. The cases of `Answers.IsRefused` stand
in the order in which answers are looked at, and each of them says that nothing before is wrong.
-/
theorem make_fails_iff_isRefused (h : AnswersWith server options database requested answers)
    (hrequested : options.tables = .list (requested.map .text)) (session : Session) :
    ((∃ plan, (start (make server options database) session).1 = .ok plan)
      ↔ answers.IsPlannable requested)
    ∧ ∀ failure, (start (make server options database) session).1 = .error failure
      ↔ answers.IsRefused database requested failure := by
  have houtcome := (asks_make h hrequested).outcome session
  rw [houtcome]
  exact ⟨Answers.exists_plan_eq_ok_iff, fun failure => Answers.plan_eq_error_iff⟩

/-- What creates a table of the shop. -/
def creationQuery (table : String) : String := "SHOW CREATE TABLE `shop`.`" ++ table ++ "`"

theorem creationQuery_eq (table : String) :
    "SHOW CREATE TABLE " ++ Catalog.qualified (.text "shop") (.text table)
      = creationQuery table := by
  have hfront : "SHOW CREATE TABLE " ++ "`" ++ "shop" ++ "`" ++ "." ++ "`"
      = "SHOW CREATE TABLE `shop`.`" := by decide
  calc "SHOW CREATE TABLE " ++ Catalog.qualified (.text "shop") (.text table)
      = "SHOW CREATE TABLE " ++ ("`" ++ "shop" ++ "`" ++ "." ++ ("`" ++ table ++ "`")) := rfl
    _ = "SHOW CREATE TABLE " ++ "`" ++ "shop" ++ "`" ++ "." ++ "`" ++ table ++ "`" := by
      simp only [String.append_assoc]
    _ = creationQuery table := congrArg (fun front => front ++ table ++ "`") hfront

theorem creationQuery_inj {table other : String} (h : creationQuery table = creationQuery other) :
    table = other :=
  (String.append_right_inj _).mp ((String.append_left_inj _).mp h)

/-- The tables of a shop: the server keeps one for itself, and another is of an unknown kind. -/
def stageListing : List (String × String) :=
  [("__mo_stats", "r"), ("item", "r"), ("stage", "S"), ("order", "v")]

/-- A server that says of one table only what creates it. -/
def stageServer : Server := { answer := Server.scripted [
  ⟨Catalog.databaseTypeQuery false, some (.list [.text "shop"]),
    .ok { rows := .ok [[.text "shop", .text ""]] }⟩,
  ⟨Catalog.tablesQuery [.text "item"] false, some (.list [.text "shop", .text "item"]),
    .ok { rows := .ok (stageListing.map fun row => [.text row.1, .text row.2]) }⟩,
  ⟨creationQuery "item", none, .ok { rows := .ok [[.text "item", .text "create table item"]] }⟩] }

def stageAnswers : Answers where
  types := .ok [("shop", "")]
  tables := .ok stageListing
  shown := .error (.server "unexpected query: SHOW TABLES FROM `shop`")
  creation := fun table =>
    if table = "item" then .ok [["item", "create table item"]]
    else .error (.server ("unexpected query: " ++ creationQuery table))

theorem answersWith_stage :
    AnswersWith stageServer { tables := .list [.text "item"] } (.text "shop") ["item"]
      stageAnswers where
  types := by rfl
  tables := by rfl
  shown := by rfl
  creation := by
    intro table
    rw [creationQuery_eq]
    by_cases htable : table = "item"
    · subst htable
      rfl
    · have hother : creationQuery "item" ≠ creationQuery table := fun heq =>
        htable (creationQuery_inj heq).symm
      simp only [reply, stageServer, stageAnswers, Server.scripted, if_neg htable]
      simp [Server.Entry.fits, Server.compared, Value.isGiven, Value.equals, Value.whole?, hother]
      rfl

/--
One table can be planned, the next one is of a kind that is unknown, and what creates the last one
is not known either. It is the kind that is complained of.
-/
theorem make_fails_on_stage :
    AnswersWith stageServer { tables := .list [.text "item"] } (.text "shop") ["item"] stageAnswers
    ∧ stageAnswers.creation "order"
      = .error (.server "unexpected query: SHOW CREATE TABLE `shop`.`order`")
    ∧ ∀ session, (start (make stageServer { tables := .list [.text "item"] } (.text "shop"))
        session).1 = .error (.unsupportedKind "stage" "S") := by
  have hlisting : stageAnswers.listing ["item"] ""
      = .ok ([("item", "r")] ++ ("stage", "S") :: [("order", "v")]) := by rfl
  have hitem : stageAnswers.IsDefinable ("item", "r") :=
    ⟨by decide, "item", "create table item", [], [], rfl⟩
  refine ⟨answersWith_stage, by rfl, fun session => ?_⟩
  exact ((make_fails_iff_isRefused answersWith_stage rfl session).2 _).mpr
    (.definition rfl hlisting (by decide) (by simpa using hitem) (.kind (by decide)))

end Dump.Plan

end DatabaseDump
