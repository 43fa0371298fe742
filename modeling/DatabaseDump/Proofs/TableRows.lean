import DatabaseDump.Options.Settings
import DatabaseDump.Proofs.Packing
import DatabaseDump.Proofs.Places
import DatabaseDump.Proofs.Planning

/-!
# What the rows of a table become

The rows of a table become statements that insert them, or a side file and the statement
that loads it. `IsData` says what is there when the rows have come to their end, and
`IsBrokenData` what is there when they broke off or did not begin to come. Both mention the
answers of the server, but neither the session nor the order of the calls.

The two writers fail at different points. Insert statements are written while the rows
come, so whole groups of them stay behind. A side file is loaded by a statement that is
written last, so its failure leaves no statement at all.
-/

namespace DatabaseDump

open Work

theorem exists_of_bind_eq_ok {ε α β : Type} {result : Except ε α} {next : α → Except ε β} {b : β}
    (h : result >>= next = .ok b) : ∃ a, result = .ok a ∧ next a = .ok b := by
  cases result with
  | error failure => cases h
  | ok a => exact ⟨a, rfl, h⟩

theorem bind_eq_error_iff {ε α β : Type} {result : Except ε α} {next : α → Except ε β}
    {failure : ε} : result >>= next = .error failure ↔
      result = .error failure ∨ ∃ a, result = .ok a ∧ next a = .error failure := by
  cases result with
  | error other =>
    constructor
    · intro h
      cases h
      exact .inl rfl
    · rintro (h | ⟨_, h, _⟩)
      · cases h
        rfl
      · cases h
  | ok a =>
    constructor
    · exact fun h => .inr ⟨a, rfl, h⟩
    · rintro (h | ⟨_, h, hnext⟩)
      · cases h
      · cases h
        exact hnext

/-- Options come out of settings only with a budget and a delimiter that were checked. -/
theorem Options.exists_of_ofSettings_ok {settings : Fields} {options : Options}
    (h : ofSettings settings = .ok options) :
    ∃ length delimiter, requestedLength settings = .ok length
      ∧ requestedDelimiter settings = .ok delimiter
      ∧ options.bufferLength = .int (clamp length) ∧ options.delimiter = delimiter
      ∧ options.format = if isOn settings "csv" then .csv else .sql := by
  obtain ⟨length, hlength, h⟩ := exists_of_bind_eq_ok h
  obtain ⟨databases, -, h⟩ := exists_of_bind_eq_ok h
  obtain ⟨host, -, h⟩ := exists_of_bind_eq_ok h
  obtain ⟨delimiter, hdelimiter, h⟩ := exists_of_bind_eq_ok h
  obtain ⟨port, -, h⟩ := exists_of_bind_eq_ok h
  obtain ⟨tables, -, h⟩ := exists_of_bind_eq_ok h
  cases h
  exact ⟨length, delimiter, hlength, hdelimiter, rfl, rfl, rfl⟩

namespace Dump

open Sql.Insert (IsGreedy)

/-- The statements that insert groups of rows. -/
def Inserts.statements (table : Value) (columns : List Column) (groups : List (List Row)) :
    List Sql.Statement :=
  groups.map fun group => .insert table.toText (group.map (Sql.tuple (columns.map Column.tag)))

/-- What the server streams when it is asked for the rows of a table. -/
def Streams (server : Server) (options : Options) (database table : Value)
    (outcome : Except Failure (List Column × RowSource Failure)) : Prop :=
  Asks (Connection.stream server (rowsQuery options.filter database table)) outcome

/--
What the rows of a table become: one statement for each group of their greedy cut and the
blank lines, or the side file and the statement that loads it.
-/
inductive IsData (options : Options) (base : Location) (database table : Value)
    (columns : List Column) (rows : List Row) : Written → Prop
  | inserts {budget : Int} {groups : List (List Row)} (hformat : options.format = .sql)
      (hbudget : options.bufferLength = .int budget)
      (hgroups : IsGreedy table.toText budget (Sql.tuple (columns.map Column.tag)) rows groups) :
      IsData options base database table columns rows
        ⟨Inserts.statements table columns groups ++ [.endOfRows], []⟩
  | sideFile {escaper : Csv.Escaper} {delimiter : Char} (hformat : options.format = .csv)
      (hescaper : Csv.Escaper.ofSetting options.escaping options.escapeChars = .ok escaper)
      (hdelimiter : options.delimiter = .text (String.singleton delimiter)) :
      IsData options base database table columns rows
        ⟨[.load ⟨(SideFile.path ⟨"/", base⟩ database table).text, table.toText,
            String.singleton delimiter, options.localFile⟩],
          [(SideFile.place base database table, []),
            (SideFile.place base database table,
              Csv.fileBytes escaper delimiter (columns.map Column.tag) rows)]⟩

/--
The statements for the rows of a table that broke off: whole groups of the rows that came
first, and none when the rows go to a side file or did not begin to come.
-/
inductive IsBrokenData (server : Server) (options : Options) (database table : Value)
    (failure : Failure) : List Sql.Statement → Prop
  | refused (hstream : Streams server options database table (.error failure)) :
      IsBrokenData server options database table failure []
  | inserts {columns : List Column} {rows : List Row} {groups : List (List Row)}
      (hformat : options.format = .sql)
      (hstream : Streams server options database table (.ok (columns, ⟨rows, some failure⟩)))
      (hnonempty : ∀ group ∈ groups, group ≠ []) (hgroups : groups.flatten <+: rows) :
      IsBrokenData server options database table failure
        (Inserts.statements table columns groups)
  | sideFile {columns : List Column} {source : RowSource Failure} (hformat : options.format = .csv)
      (hstream : Streams server options database table (.ok (columns, source))) :
      IsBrokenData server options database table failure []

/-- The rows of a table leave one statement for each group, the last one only at their end. -/
theorem Inserts.leaves_writeTable (base : Location) (budget : Int) (table : Value)
    (columns : List Column) (source : RowSource Failure) :
    ∃ groups, IsGreedy table.toText budget (Sql.tuple (columns.map Column.tag)) source.rows groups
      ∧ Leaves base (writeTable (.bytes budget) table columns source)
        (fun _ written => source.failure = none
          ∧ written = ⟨statements table columns groups ++ [.endOfRows], []⟩)
        (fun failure written => source.failure = some failure
          ∧ written = ⟨statements table columns groups.dropLast, []⟩) := by
  obtain ⟨groups, hgreedy, hmap⟩ := Sql.Insert.exists_isGreedy table.toText budget
    (Sql.tuple (columns.map Column.tag)) source.rows
  have hgroups : Inserts.groups table.toText (.bytes budget) columns source.rows
      = .ok (groups.map (List.map (Sql.tuple (columns.map Column.tag)))) := by
    rw [Inserts.groups, Sql.Budget.groups, hmap]
  have hstatements : ∀ cut : List (List Row),
      (cut.map (List.map (Sql.tuple (columns.map Column.tag)))).map
        (Sql.Statement.insert table.toText) = statements table columns cut := by
    intro cut
    rw [List.map_map]
    rfl
  refine ⟨groups, hgreedy, ?_⟩
  unfold writeTable
  -- lending buffers changes neither output nor folder
  refine .of_aside (fun _ => Session.grows_of_eq rfl rfl rfl) ?_
  rw [hgroups]
  refine (asks_ofResult _).leaves_bind ?_
  obtain ⟨rows, ended⟩ := source
  cases ended with
  | some failure =>
    -- the last group was still being filled
    refine .of_emitAll _ (leaves_throw failure ⟨rfl, ?_⟩)
    rw [Written.append_nil, ← List.map_dropLast, hstatements]
  | none =>
    refine .of_emitAll _ ((asks_record _).leaves_bind (leaves_pure _ ⟨rfl, ?_⟩))
    rw [Written.append_nil, hstatements]

theorem SideFile.eq_singleton_of_delimiterChar {setting : Value} {delimiter : Char}
    (h : delimiterChar setting = .ok delimiter) : setting = .text (String.singleton delimiter) := by
  unfold delimiterChar at h
  split at h
  · rename_i s
    split at h
    · rename_i c hchars
      cases h
      rw [← String.ofList_toList (s := s), hchars, String.singleton_eq_ofList]
    · cases h
  · cases h

/-- Opening the side file of a table leaves it empty at its place. -/
theorem SideFile.leaves_openFile (base : Location) (style : Style) (database table : Value) :
    Leaves base (openFile style database table)
      (fun opened written => opened.1 = place base database table
        ∧ style.delimiter = .text (String.singleton opened.2)
        ∧ written = ⟨[], [(place base database table, [])]⟩)
      (fun _ written => written.output = []) := by
  rintro session rfl
  simp only [openFile, start_bind, start_get, start_ofResult, start_modify, start_pure]
  cases hopen : session.folder.openForWriting (path session.folder.basePath database table) with
  | error failure => exact ⟨{}, Session.grows_refl session, rfl⟩
  | ok location =>
    have hlocation := eq_place_of_openForWriting hopen
    -- the delimiter is looked at when the file has been emptied already
    cases hread : delimiterChar style.delimiter with
    | error failure => exact ⟨_, session.grows_put _ _, rfl⟩
    | ok delimiter =>
      refine ⟨_, session.grows_put location [], hlocation, eq_singleton_of_delimiterChar hread, ?_⟩
      rw [hlocation]

/-- The rows of a table leave their side file, and at their end the statement that loads it. -/
theorem SideFile.leaves_writeRows (base : Location) (style : Style) (location : Location)
    (delimiter : Char) (database table : Value) (columns : List Column)
    (source : RowSource Failure) :
    Leaves base (writeRows style location delimiter database table columns source)
      (fun _ written => source.failure = none ∧ written =
        ⟨[.load ⟨(path ⟨"/", base⟩ database table).text, table.toText,
            String.singleton delimiter, style.localFile⟩],
          [(location, Csv.fileBytes style.escaper delimiter (columns.map Column.tag)
            source.rows)]⟩)
      (fun _ written => written.output = []) := by
  unfold writeRows
  refine .of_modify (fun session => session.grows_put location _) ?_
  cases source.failure with
  | some failure => exact leaves_throw failure rfl
  | none =>
    rintro session rfl
    exact ⟨⟨[_], []⟩, (session.grows_output [_]).trans (Session.grows_logged _ _), rfl, rfl⟩

/-- **The rows of a table leave their data, or what there is of it when they break off.** -/
theorem leaves_tableRows {server : Server} {options : Options} {writer : Writer}
    (hbudget : options.format = .sql → ∃ budget, options.bufferLength = .int budget)
    (hwriter : Writer.ofOptions options = .ok writer) (base : Location) (database table : Value) :
    Leaves base (tableRows server writer options.filter database table)
      (fun _ written => ∃ columns rows,
        Streams server options database table (.ok (columns, ⟨rows, none⟩))
        ∧ IsData options base database table columns rows written)
      (fun failure written =>
        IsBrokenData server options database table failure written.output) := by
  refine (asks_record _).leaves_bind ?_
  refine (Connection.isQuestion_stream ..).leaves_bind ?_ ?_
  · intro failure hstream
    exact .refused hstream
  · rintro ⟨columns, source⟩ hstream
    cases hformat : options.format with
    | sql =>
      obtain ⟨budget, hbudget⟩ := hbudget hformat
      rw [Writer.ofOptions, hformat, hbudget] at hwriter
      cases hwriter
      refine (asks_call _).leaves_bind ?_
      obtain ⟨groups, hgreedy, hleaves⟩ :=
        Inserts.leaves_writeTable base budget table columns source
      obtain ⟨rows, ended⟩ := source
      refine hleaves.mono ?_ ?_
      · rintro stats written ⟨rfl, rfl⟩
        exact ⟨columns, rows, hstream, .inserts hformat hbudget hgreedy⟩
      · rintro failure written ⟨rfl, rfl⟩
        refine .inserts hformat hstream ?_ ?_
        · intro group hgroup
          exact hgreedy.nonempty group (List.mem_of_mem_dropLast hgroup)
        · -- all groups hold all rows, so those without the last one hold the first rows
          obtain ⟨last, hlast⟩ := List.dropLast_prefix groups
          refine ⟨last.flatten, ?_⟩
          rw [← List.flatten_append, hlast]
          exact hgreedy.flatten
    | csv =>
      rw [Writer.ofOptions, hformat] at hwriter
      obtain ⟨escaper, hescaper, hwriter⟩ := exists_of_bind_eq_ok hwriter
      cases hwriter
      refine (SideFile.leaves_openFile base _ database table).bind ?_ ?_
      · -- a file that cannot be opened, or one that was emptied in vain
        intro failure written houtput
        rw [houtput]
        exact .sideFile hformat hstream
      · rintro ⟨location, delimiter⟩ _ ⟨hlocation, hdelimiter, rfl⟩
        dsimp only at hlocation hdelimiter ⊢
        rw [hlocation]
        refine (asks_call _).leaves_bind ?_
        refine (SideFile.leaves_writeRows base _ _ delimiter database table columns
          source).mono ?_ ?_
        · rintro stats _ ⟨hended, rfl⟩
          obtain ⟨rows, ended⟩ := source
          obtain rfl : ended = none := hended
          exact ⟨columns, rows, hstream, .sideFile hformat hescaper hdelimiter⟩
        · -- rows that broke off are in the file, but nothing loads it
          intro failure written houtput
          rw [Written.output_append, houtput]
          exact .sideFile hformat hstream

end Dump

end DatabaseDump
