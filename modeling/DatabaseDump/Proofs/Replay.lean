import DatabaseDump.Proofs.Accounts

/-!
# Where a dump is replayed

The statements of a table do not say in which database the table lies. When they are
replayed, they take effect in the database that was switched to last.

The header of a section ends with such a switch and no block has one, so with headers every
statement takes effect in the database of its table. Where only some tables are asked for,
sections have no header, and the whole dump is replayed in whatever database is current
before it: tables of one name then drop each other.
-/

namespace DatabaseDump.Dump

open Work

/-- The database that is current once statements have been replayed. -/
def currentAfter (current : Option String) (statements : List Sql.Statement) : Option String :=
  statements.foldl (fun current statement =>
    match statement with
    | .useDatabase name => some name
    | _ => current) current

theorem currentAfter_append (current : Option String) (first second : List Sql.Statement) :
    currentAfter current (first ++ second) = currentAfter (currentAfter current first) second :=
  List.foldl_append

theorem currentAfter_of_forall_ne {statements : List Sql.Statement}
    (h : ∀ name, .useDatabase name ∉ statements) (current : Option String) :
    currentAfter current statements = current := by
  induction statements generalizing current with
  | nil => rfl
  | cons statement statements ih =>
    have hrest : ∀ name, .useDatabase name ∉ statements :=
      fun name hmem => h name (List.mem_cons_of_mem _ hmem)
    have hfirst : currentAfter current [statement] = current := by
      cases statement with
      | useDatabase name => exact absurd List.mem_cons_self (h name)
      | _ => rfl
    rw [← List.singleton_append, currentAfter_append, hfirst, ih hrest]

/--
Some part has a statement in one of its blocks, and `before` is all that stands between the
first switch of the dump and it. The database is that of the part.
-/
def IsTableStatement (parts : List Part) (before : List Sql.Statement) (database : Value)
    (statement : Sql.Statement) : Prop :=
  ∃ earlier part later blocks block more front back,
    parts = earlier ++ part :: later ∧ part.database = database
    ∧ part.blocks = blocks ++ block :: more ∧ block.statements = front ++ statement :: back
    ∧ before = earlier.flatMap Part.output
      ++ (part.header.output ++ (blocks.flatMap Block.statements ++ front))

/--
Whether a statement is one of a table, by what stands before it: what is created right behind
the drop of a database is the database.
-/
def isOfTable (before : List Sql.Statement) : Sql.Statement → Bool
  | .dropTable _ | .dropView _ | .insert .. | .load _ => true
  | .create .. =>
    match before.getLast? with
    | some (.dropDatabase _) => false
    | _ => true
  | _ => false

/-- What stands somewhere in two lists in a row stands behind the first one or in it. -/
theorem exists_of_append_eq_append_cons {β : Type} {first second front back : List β} {x : β}
    (h : first ++ second = front ++ x :: back) :
    (∃ more, front = first ++ more ∧ second = more ++ x :: back)
      ∨ ∃ rest, first = front ++ x :: rest := by
  rcases List.append_eq_append_iff.mp h with hbehind | ⟨more, hfirst, hmore⟩
  · exact .inl hbehind
  · cases more with
    | nil => exact .inl ⟨[], by simpa using hfirst.symm, hmore.symm⟩
    | cons y rest =>
      obtain ⟨rfl, -⟩ := List.cons.inj hmore
      exact .inr ⟨rest, hfirst⟩

/-- What stands somewhere in pieces in a row stands in one of them, behind those before it. -/
theorem exists_of_flatMap_eq_append_cons {α β : Type} {f : α → List β} {list : List α}
    {front back : List β} {x : β} (h : list.flatMap f = front ++ x :: back) :
    ∃ earlier a later inner rest, list = earlier ++ a :: later ∧ f a = inner ++ x :: rest
      ∧ front = earlier.flatMap f ++ inner := by
  induction list generalizing front with
  | nil => simp at h
  | cons a list ih =>
    rw [List.flatMap_cons] at h
    rcases exists_of_append_eq_append_cons h with ⟨more, rfl, hmore⟩ | ⟨rest, hpiece⟩
    · obtain ⟨earlier, b, later, inner, rest, rfl, hinner, rfl⟩ := ih hmore
      exact ⟨a :: earlier, b, later, inner, rest, rfl, hinner, by simp⟩
    · exact ⟨[], a, list, front, rest, rfl, hpiece, rfl⟩

/-- No block switches to a database. -/
theorem Block.IsOf.useDatabase_not_mem {definition : Definition} {block : Block}
    (h : block.IsOf definition) (name : String) : .useDatabase name ∉ block.statements := by
  obtain ⟨kind, creation, data, -, -, hstatements, hfills, -⟩ := h.statements
  rw [hstatements]
  intro hmem
  rcases List.mem_append.mp hmem with hdrop | hrest
  · cases kind <;> simp [dropping] at hdrop
  · rcases List.mem_cons.mp hrest with hcreate | hdata
    · cases hcreate
    · cases hfills _ hdata

section
variable {server : Server} {options : Options} {part : Part}

theorem Part.IsOf.useDatabase_not_mem_blocks (h : part.IsOf server options) (name : String) :
    .useDatabase name ∉ part.blocks.flatMap Block.statements := by
  intro hmem
  obtain ⟨block, hblock, hmem⟩ := List.mem_flatMap.mp hmem
  obtain ⟨i, hi, rfl⟩ := List.mem_iff_getElem.mp hblock
  have hof := h.blocks.get (h.blocks.length_eq ▸ hi) hi
  exact hof.useDatabase_not_mem name hmem

/-- With headers, the blocks of a part are replayed in its own database. -/
theorem Part.IsOf.currentAfter_header (h : part.IsOf server options)
    (hall : options.allTables = true) (current : Option String) :
    currentAfter current part.header.output = some part.database.toText := by
  have hheader := h.header
  generalize part.header = header at hheader ⊢
  cases hheader with
  | none hsome =>
    rw [hall] at hsome
    cases hsome
  | full => rfl

/-- Without headers, a part does not switch to any database. -/
theorem Part.IsOf.useDatabase_not_mem (h : part.IsOf server options)
    (hsome : options.allTables = false) (name : String) : .useDatabase name ∉ part.output := by
  intro hmem
  rcases List.mem_append.mp hmem with hheader | hblocks
  · have hof := h.header
    generalize part.header = header at hof hheader
    cases hof with
    | none => cases hheader
    | full hall =>
      rw [hall] at hsome
      cases hsome
  · exact h.useDatabase_not_mem_blocks name hblocks

/-- A header has no statement of a table. -/
theorem IsHeader.isOfTable_eq_false {database type : Value} {header : Written}
    (h : IsHeader server options database type header) {inner rest : List Sql.Statement}
    {statement : Sql.Statement} (hsplit : header.output = inner ++ statement :: rest)
    (before : List Sql.Statement) : isOfTable (before ++ inner) statement = false := by
  cases h with
  | none => simp at hsplit
  | full =>
    match inner, hsplit with
    | [], hsplit =>
      obtain ⟨rfl, -⟩ := List.cons.inj hsplit
      rfl
    | [_], hsplit =>
      obtain ⟨rfl, hcreate⟩ := List.cons.inj hsplit
      obtain ⟨rfl, -⟩ := List.cons.inj hcreate
      simp [isOfTable]
    | [_, _], hsplit =>
      obtain ⟨-, hcreate⟩ := List.cons.inj hsplit
      obtain ⟨-, huse⟩ := List.cons.inj hcreate
      obtain ⟨rfl, -⟩ := List.cons.inj huse
      rfl
    | _ :: _ :: _ :: inner, hsplit => simp at hsplit

/-- A statement of a table stands between the two switches. -/
theorem exists_of_isOfTable {inner front back : List Sql.Statement} {statement : Sql.Statement}
    (hsplit : .foreignKeyChecks false :: inner ++ [.foreignKeyChecks true]
      = front ++ statement :: back) (htable : isOfTable front statement = true) :
    ∃ before rest, front = .foreignKeyChecks false :: before
      ∧ inner = before ++ statement :: rest := by
  rcases exists_of_append_eq_append_cons hsplit with ⟨more, -, hlast⟩ | ⟨rest, hinner⟩
  · cases more with
    | nil =>
      obtain ⟨rfl, -⟩ := List.cons.inj hlast
      cases htable
    | cons => simp at hlast
  · cases front with
    | nil =>
      obtain ⟨rfl, -⟩ := List.cons.inj hinner
      cases htable
    | cons switch before =>
      obtain ⟨rfl, hbefore⟩ := List.cons.inj hinner
      exact ⟨before, rest, rfl, hbefore⟩

/-- Every statement of a table belongs to the block of some part. -/
theorem exists_isTableStatement {parts : List Part}
    (hparts : ∀ part ∈ parts, part.IsOf server options) {before rest : List Sql.Statement}
    {statement : Sql.Statement} (hsplit : parts.flatMap Part.output = before ++ statement :: rest)
    (htable : isOfTable (.foreignKeyChecks false :: before) statement = true) :
    ∃ database, IsTableStatement parts before database statement := by
  obtain ⟨earlier, part, later, inside, rest, rfl, hpart, rfl⟩ :=
    exists_of_flatMap_eq_append_cons hsplit
  rcases exists_of_append_eq_append_cons hpart with ⟨more, rfl, hmore⟩ | ⟨more, hheader⟩
  · obtain ⟨blocks, block, others, front, back, hblocks, hblock, rfl⟩ :=
      exists_of_flatMap_eq_append_cons hmore
    exact ⟨part.database, earlier, part, later, blocks, block, others, front, back, rfl, rfl,
      hblocks, hblock, rfl⟩
  · have hno := (hparts part (by simp)).header.isOfTable_eq_false hheader
      (.foreignKeyChecks false :: earlier.flatMap Part.output)
    rw [List.cons_append, htable] at hno
    cases hno

/-- With headers, a statement of a block is replayed in the database of its part. -/
theorem IsTableStatement.currentAfter_eq {parts : List Part} {before : List Sql.Statement}
    {database : Value} {statement : Sql.Statement}
    (h : IsTableStatement parts before database statement)
    (hparts : ∀ part ∈ parts, part.IsOf server options) (hall : options.allTables = true)
    (current : Option String) : currentAfter current before = some database.toText := by
  obtain ⟨earlier, part, later, blocks, block, more, front, back, rfl, rfl, hblocks, hblock, rfl⟩ :=
    h
  have hpart : part.IsOf server options := hparts part (by simp)
  have hnone : ∀ name, .useDatabase name ∉ blocks.flatMap Block.statements ++ front := by
    intro name hmem
    refine hpart.useDatabase_not_mem_blocks name ?_
    rw [hblocks, List.flatMap_append, List.flatMap_cons, hblock]
    rcases List.mem_append.mp hmem with hearlier | hfront
    · exact List.mem_append_left _ hearlier
    · exact List.mem_append_right _ (List.mem_append_left _ (List.mem_append_left _ hfront))
  rw [currentAfter_append, currentAfter_append, currentAfter_of_forall_ne hnone,
    hpart.currentAfter_header hall]

end

/--
Whatever database was current before the dump, every statement of a table is replayed in the
database of the part that it belongs to.
-/
def ReplaysIntoOwn (parts : List Part) (output : List Sql.Statement) : Prop :=
  ∀ front statement back, output = front ++ statement :: back →
    isOfTable front statement = true →
    ∃ before database, front = .foreignKeyChecks false :: before
      ∧ IsTableStatement parts before database statement
      ∧ ∀ current, currentAfter current front = some database.toText

/--
**With headers, every statement of a table is replayed in the database of the table.**

Where only some tables are asked for, a dump does not switch to any database at all.
-/
theorem run_replays_into_own_database {options : Options} {server : Server} {writer : Writer}
    {session after : Session} {stats : DumpStats}
    (hrun : start (run server options writer) session = (.ok stats, after)) :
    ∃ (parts : List Part) (output : List Sql.Statement),
      Asks (Plan.databases server options) (.ok (parts.map Part.database))
      ∧ (∀ part ∈ parts, part.IsOf server options)
      ∧ output = .foreignKeyChecks false :: parts.flatMap Part.output ++ [.foreignKeyChecks true]
      ∧ after.output = session.output ++ output
      ∧ (options.allTables = true → ReplaysIntoOwn parts output)
      ∧ (options.allTables = false → ∀ name, .useDatabase name ∉ output) := by
  obtain ⟨parts, hdatabases, hparts, hadds, -⟩ := exists_parts_of_run_ok hrun
  refine ⟨parts, _, hdatabases, hparts, rfl, hadds.output, ?_, ?_⟩
  · intro hall front statement back hsplit htable
    obtain ⟨before, rest, rfl, hinner⟩ := exists_of_isOfTable hsplit htable
    obtain ⟨database, hstatement⟩ := exists_isTableStatement hparts hinner htable
    exact ⟨before, database, rfl, hstatement,
      fun current => hstatement.currentAfter_eq hparts hall current⟩
  · intro hsome name hmem
    simp only [List.cons_append, List.mem_cons, List.mem_append, List.mem_flatMap, reduceCtorEq,
      List.not_mem_nil, or_false, false_or] at hmem
    obtain ⟨part, hpart, hmem⟩ := hmem
    exact (hparts part hpart).useDatabase_not_mem hsome name hmem

/-- A server with two databases that have an ordinary table of the same name each. -/
def twinScript : List Server.Entry :=
  let rows (list : List (List Value)) : Except Failure Answer := .ok { rows := .ok list }
  let entries (database row : String) : List Server.Entry :=
    let tables := rows [[.text "t", .text "r"]]
    [⟨Catalog.databaseTypeQuery false, some (.list [.text database]),
        rows [[.text database, .text ""]]⟩,
      ⟨Catalog.tablesQuery [] false, some (.list [.text database]), tables⟩,
      ⟨Catalog.tablesQuery [.text "t"] false, some (.list [.text database, .text "t"]), tables⟩,
      ⟨"SHOW CREATE DATABASE `" ++ database ++ "`", none,
        rows [[.text database, .text ("CREATE DATABASE " ++ database)]]⟩,
      ⟨"SHOW CREATE TABLE `" ++ database ++ "`.`t`", none,
        rows [[.text "t", .text "CREATE TABLE t (x INT)"]]⟩,
      ⟨"SELECT * FROM `" ++ database ++ "`.`t`", none,
        .ok { headings := [[.text "x", .int 3, .null]],
              stream := ⟨[[some (Text.utf8 row)]], none⟩ }⟩]
  entries "a" "1" ++ entries "b" "2"

def twin : Server := { answer := Server.scripted twinScript }

/-- What is written of the table of one of the twins. -/
def twinBlock (row : String) : List Sql.Statement :=
  [.dropTable "t", .create "CREATE TABLE t (x INT)" false,
    .insert "t" [Text.utf8 ("(" ++ row ++ ")")], .endOfRows]

/-- What is written of one of the twins, with its header. -/
def twinSection (database row : String) : List Sql.Statement :=
  [.dropDatabase database, .create ("CREATE DATABASE " ++ database) false, .useDatabase database]
    ++ twinBlock row

/-- Both twins are dumped with all their tables. -/
theorem run_replays_into_own_database_twins :
    let options : Options := { databases := .list [.text "a", .text "b"] }
    let writer : Writer := .inserts (.bytes 1048576)
    let session : Session := { folder := { base := [] } }
    ∃ stats after, start (run twin options writer) session = (.ok stats, after)
      ∧ after.output = [.foreignKeyChecks false] ++ twinSection "a" "1" ++ twinSection "b" "2"
        ++ [.foreignKeyChecks true]
      ∧ ∃ (parts : List Part) (output : List Sql.Statement),
        Asks (Plan.databases twin options) (.ok (parts.map Part.database))
        ∧ (∀ part ∈ parts, part.IsOf twin options)
        ∧ output
          = .foreignKeyChecks false :: parts.flatMap Part.output ++ [.foreignKeyChecks true]
        ∧ after.output = output
        ∧ (options.allTables = true → ReplaysIntoOwn parts output)
        ∧ (options.allTables = false → ∀ name, .useDatabase name ∉ output) := by
  intro options writer session
  have hended : (start (run twin options writer) session).1.isOk = true := by decide +kernel
  have houtput : (start (run twin options writer) session).2.output
      = [.foreignKeyChecks false] ++ twinSection "a" "1" ++ twinSection "b" "2"
        ++ [.foreignKeyChecks true] := by decide +kernel
  obtain ⟨stats, hrun⟩ := exists_start_eq_ok hended
  exact ⟨stats, _, hrun, houtput, run_replays_into_own_database hrun⟩

/--
Where only the table of the twins is asked for, that of the second database drops the
one of the first, because nothing that stands before it switches to a database.
-/
theorem requested_tables_share_a_database :
    let options : Options :=
      { databases := .list [.text "a", .text "b"], tables := .list [.text "t"] }
    let before := [.foreignKeyChecks false] ++ twinBlock "1"
    Options.ofSettings [("database", .text "a,b"), ("tables", .text "t")] = .ok options
    ∧ Writer.ofOptions options = .ok (.inserts (.bytes 1048576))
    ∧ ∃ stats after,
      start (run twin options (.inserts (.bytes 1048576))) { folder := { base := [] } }
        = (.ok stats, after)
      ∧ after.output = before ++ twinBlock "2" ++ [.foreignKeyChecks true]
      ∧ after.stats.databases.map DatabaseStats.name = [.text "a", .text "b"]
      ∧ isOfTable before (.dropTable "t") = true
      ∧ (∀ name, .useDatabase name ∉ before)
      ∧ currentAfter (some "a") before = some "a" := by
  intro options before
  have hended : (start (run twin options (.inserts (.bytes 1048576)))
      { folder := { base := [] } }).1.isOk = true := by decide +kernel
  obtain ⟨stats, hrun⟩ := exists_start_eq_ok hended
  have hnone : ∀ name, .useDatabase name ∉ before := by simp [before, twinBlock]
  exact ⟨rfl, rfl, stats, _, hrun, by decide +kernel, by decide +kernel, rfl, hnone,
    currentAfter_of_forall_ne hnone _⟩

end DatabaseDump.Dump
