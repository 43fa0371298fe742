import DatabaseDump.Dump.Inserts
import Mathlib.Data.List.Chain

/-!
# Statements are packed greedily

The rows of a table are cut into groups, one insert statement for each. The cut is
the greedy one: a group grows as long as the statement with one more row stays within
the budget, and a group of a single row may be of any size.

`IsGreedy` says this of a cut without mentioning how the cut is found. The four
conditions leave no choice: a group that could be longer contradicts `full`, and one
that could be shorter contradicts `fits`, so a list of rows has only one greedy cut.
-/

namespace DatabaseDump.Sql.Insert

variable {α : Type} {table : String} {budget : Int} {encode : α → Bytes}

/-- The statement of a group of items, each written as a tuple. -/
def statementOf (table : String) (encode : α → Bytes) (group : List α) : Bytes :=
  statement table (group.map encode)

/-- `groups` is the greedy cut of `items` under a budget of bytes. -/
structure IsGreedy (table : String) (budget : Int) (encode : α → Bytes)
    (items : List α) (groups : List (List α)) : Prop where
  /-- No item is lost, added or moved. -/
  flatten : groups.flatten = items
  /-- No statement is without a tuple. -/
  nonempty : ∀ group ∈ groups, group ≠ []
  /-- A statement of several tuples stays within the budget. -/
  fits : ∀ group ∈ groups, 2 ≤ group.length →
    ((statementOf table encode group).length : Int) ≤ budget
  /-- The first item of the next group would have been too much for the group before it. -/
  full : groups.IsChain fun group next =>
    ∀ item ∈ next.head?, budget < (statementOf table encode (group ++ [item])).length

/-! ## The size of a statement -/

/-- The bytes of tuples that follow another one, each with its comma. -/
def followingSize : List Bytes → Nat
  | [] => 0
  | tuple :: rest => (tuple.length + 1) + followingSize rest

@[simp] theorem followingSize_nil : followingSize [] = 0 := rfl

@[simp] theorem followingSize_cons (tuple : Bytes) (rest : List Bytes) :
    followingSize (tuple :: rest) = (tuple.length + 1) + followingSize rest := rfl

@[simp] theorem followingSize_append (front back : List Bytes) :
    followingSize (front ++ back) = followingSize front + followingSize back := by
  induction front with
  | nil => simp
  | cons tuple front ih =>
    rw [List.cons_append, followingSize_cons, followingSize_cons, ih]
    omega

theorem length_commaSeparated_cons (tuple : Bytes) (rest : List Bytes) :
    (commaSeparated (tuple :: rest)).length = tuple.length + followingSize rest := by
  induction rest generalizing tuple with
  | nil => simp [commaSeparated, List.intercalate]
  | cons next rest ih =>
    have h := ih next
    simp only [commaSeparated, List.intercalate, List.intersperse, List.flatten_cons,
      List.length_append, List.length_cons, List.length_nil, followingSize_cons] at h ⊢
    omega

theorem length_statement_cons (table : String) (tuple : Bytes) (rest : List Bytes) :
    (statement table (tuple :: rest)).length
      = (opening table).length + tuple.length + followingSize rest + closing.length := by
  simp only [statement, List.length_append, length_commaSeparated_cons]
  omega

/-- A statement does not shrink when tuples are added to its group. -/
theorem length_statementOf_append_le (table : String) (encode : α → Bytes)
    {group : List α} (h : group ≠ []) (more : List α) :
    (statementOf table encode group).length
      ≤ (statementOf table encode (group ++ more)).length := by
  obtain ⟨item, rest, rfl⟩ := List.exists_cons_of_ne_nil h
  simp only [statementOf, List.cons_append, List.map_cons, List.map_append,
    length_statement_cons, followingSize_append]
  omega

/-! ## What `takeFitting` takes -/

/-- What is taken fits into the room, all commas included. -/
theorem followingSize_takeFitting_le (room : Int) (tuples : List Bytes)
    (h : (takeFitting room tuples).1 ≠ []) :
    (followingSize (takeFitting room tuples).1 : Int) ≤ room := by
  induction tuples generalizing room with
  | nil => exact absurd rfl h
  | cons tuple rest ih =>
    simp only [takeFitting] at h ⊢
    split at h
    · exact absurd rfl h
    · rename_i hroom
      rw [if_neg hroom, followingSize_cons]
      by_cases hfront : (takeFitting (room - (tuple.length + 1)) rest).1 = []
      · rw [hfront, followingSize_nil]
        omega
      · have hrest := ih (room - (tuple.length + 1)) hfront
        push_cast
        omega

/-- The first tuple that is left does not fit behind what was taken. -/
theorem room_lt_of_left (room : Int) (tuples : List Bytes) :
    ∀ tuple ∈ (takeFitting room tuples).2.head?,
      room < followingSize ((takeFitting room tuples).1 ++ [tuple]) := by
  induction tuples generalizing room with
  | nil => intro tuple h; exact absurd h (by simp [takeFitting])
  | cons tuple rest ih =>
    intro left h
    simp only [takeFitting] at h ⊢
    split at h
    · rename_i hroom
      obtain rfl : tuple = left := by simpa using h
      rw [if_pos hroom]
      simpa using hroom
    · rename_i hroom
      have hrest := ih (room - (tuple.length + 1)) left h
      rw [if_neg hroom]
      simp only [List.cons_append, followingSize_cons]
      push_cast
      omega

/-! ## The packing is greedy -/

theorem head?_of_mem_head?_flatten {groups : List (List α)} (hne : ∀ group ∈ groups, group ≠ [])
    {next : List α} (hnext : next ∈ groups.head?) : next.head? = groups.flatten.head? := by
  obtain ⟨rest, rfl⟩ := List.head?_eq_some_iff.mp hnext
  obtain ⟨item, tail, rfl⟩ := List.exists_cons_of_ne_nil (hne next (by simp))
  rfl

/-- **`pack` cuts greedily.** -/
theorem isGreedy_pack (table : String) (budget : Int) (tuples : List Bytes) :
    IsGreedy table budget id tuples (pack table budget tuples) := by
  fun_induction pack table budget tuples with
  | case1 => exact ⟨rfl, by simp, by simp, by simp⟩
  | case2 tuple rest split ih =>
    refine ⟨?_, ?_, ?_, ?_⟩
    · rw [List.flatten_cons, ih.flatten, List.cons_append, takeFitting_append]
    · intro group hgroup
      rcases List.mem_cons.mp hgroup with rfl | hgroup
      · exact List.cons_ne_nil _ _
      · exact ih.nonempty group hgroup
    · intro group hgroup hlength
      rcases List.mem_cons.mp hgroup with rfl | hgroup
      · have hfront : split.1 ≠ [] := by
          intro hnil
          simp [hnil] at hlength
        have hroom : (followingSize split.1 : Int) ≤ roomAfter table budget tuple :=
          followingSize_takeFitting_le _ _ hfront
        simp only [statementOf, List.map_id, length_statement_cons]
        simp only [roomAfter] at hroom
        push_cast
        omega
      · exact ih.fits group hgroup hlength
    · refine List.isChain_cons.mpr ⟨?_, ih.full⟩
      intro next hnext item hitem
      rw [head?_of_mem_head?_flatten ih.nonempty hnext, ih.flatten] at hitem
      have hroom : roomAfter table budget tuple < followingSize (split.1 ++ [item]) :=
        room_lt_of_left _ _ item hitem
      simp only [statementOf, List.map_id, List.cons_append, length_statement_cons]
      simp only [roomAfter] at hroom
      push_cast
      omega

/-! ## There is only one greedy cut -/

theorem IsGreedy.tail {items group : List α} {groups : List (List α)}
    (h : IsGreedy table budget encode items (group :: groups)) :
    IsGreedy table budget encode groups.flatten groups where
  flatten := rfl
  nonempty := fun g hg => h.nonempty g (List.mem_cons_of_mem _ hg)
  fits := fun g hg => h.fits g (List.mem_cons_of_mem _ hg)
  full := h.full.tail

/-- The item after the first group would have been too much for it. -/
theorem IsGreedy.lt_of_next {items group more : List α} {item : α} {groups : List (List α)}
    (h : IsGreedy table budget encode items (group :: groups))
    (hnext : groups.flatten = item :: more) :
    budget < (statementOf table encode (group ++ [item])).length := by
  cases groups with
  | nil => cases hnext
  | cons next groups =>
    have hitem : next.head? = some item := by
      rw [head?_of_mem_head?_flatten h.tail.nonempty rfl, hnext]
      rfl
    exact (List.isChain_cons.mp h.full).1 next rfl item hitem

/-- A first group cannot be continued, as that of another greedy cut would show. -/
theorem IsGreedy.eq_nil_of_continued {items group more : List α} {groups others : List (List α)}
    (h : IsGreedy table budget encode items (group :: groups))
    (h' : IsGreedy table budget encode items ((group ++ more) :: others)) : more = [] := by
  cases more with
  | nil => rfl
  | cons item more =>
    exfalso
    have hgroup : group ≠ [] := h.nonempty group (by simp)
    have hrest : groups.flatten = item :: (more ++ others.flatten) := by
      have := h.flatten.trans h'.flatten.symm
      simpa using this
    -- the item that continues the group opens the next one of the first cut
    have hover : budget < (statementOf table encode (group ++ [item])).length :=
      h.lt_of_next hrest
    have hgrow : (statementOf table encode (group ++ [item])).length
        ≤ (statementOf table encode (group ++ item :: more)).length := by
      have hne : group ++ [item] ≠ [] := by simp
      have := length_statementOf_append_le table encode hne more
      rwa [List.append_assoc, List.singleton_append] at this
    have hfits := h'.fits (group ++ item :: more) (by simp) (by
      have := List.length_pos_iff.mpr hgroup
      simp only [List.length_append, List.length_cons]
      omega)
    omega

/-- Only nothing is cut into no groups. -/
theorem IsGreedy.eq_nil_iff {items : List α} {groups : List (List α)}
    (h : IsGreedy table budget encode items groups) : groups = [] ↔ items = [] := by
  constructor
  · rintro rfl
    exact h.flatten.symm
  · rintro rfl
    cases groups with
    | nil => rfl
    | cons group groups =>
      have hempty := (List.append_eq_nil_iff.mp h.flatten).1
      exact absurd hempty (h.nonempty group (by simp))

/-- **A list of items has only one greedy cut.** -/
theorem IsGreedy.unique {items : List α} {groups others : List (List α)}
    (h : IsGreedy table budget encode items groups)
    (h' : IsGreedy table budget encode items others) : groups = others := by
  induction groups generalizing items others with
  | nil => exact (h'.eq_nil_iff.mpr (h.eq_nil_iff.mp rfl)).symm
  | cons group groups ih =>
    cases others with
    | nil => exact h.eq_nil_iff.mpr (h'.eq_nil_iff.mp rfl)
    | cons other others =>
      have hsame : group ++ groups.flatten = other ++ others.flatten :=
        h.flatten.trans h'.flatten.symm
      obtain rfl : group = other := by
        rcases List.append_eq_append_iff.mp hsame with ⟨more, rfl, -⟩ | ⟨more, rfl, -⟩
        · rw [h.eq_nil_of_continued h', List.append_nil]
        · rw [h'.eq_nil_of_continued h, List.append_nil]
      have hrest : groups.flatten = others.flatten := List.append_cancel_left hsame
      rw [ih (h.tail) (hrest ▸ h'.tail)]

/-! ## From tuples to rows -/

/-- A cut of encoded items is the encoding of a cut of the items. -/
theorem exists_cut_of_flatten_eq_map {β : Type} (f : α → β) (cut : List (List β)) (items : List α)
    (h : cut.flatten = items.map f) :
    ∃ groups : List (List α), groups.flatten = items ∧ groups.map (List.map f) = cut := by
  induction cut generalizing items with
  | nil => exact ⟨[], by simpa using h, rfl⟩
  | cons part cut ih =>
    obtain ⟨front, back, rfl, hfront, hback⟩ := List.map_eq_append_iff.mp h.symm
    obtain ⟨groups, hgroups, hmap⟩ := ih back hback.symm
    exact ⟨front :: groups, by simp [hgroups], by simp [hfront, hmap]⟩

/-- The groups of `pack` are the greedy cut of the items that were encoded. -/
theorem exists_isGreedy (table : String) (budget : Int) (encode : α → Bytes) (items : List α) :
    ∃ groups, IsGreedy table budget encode items groups
      ∧ groups.map (List.map encode) = pack table budget (items.map encode) := by
  have hgreedy := isGreedy_pack table budget (items.map encode)
  obtain ⟨groups, hflatten, hmap⟩ := exists_cut_of_flatten_eq_map encode _ _ hgreedy.flatten
  rw [← hmap] at hgreedy
  refine ⟨groups, ⟨hflatten, ?_, ?_, ?_⟩, hmap⟩
  · intro group hgroup hnil
    exact hgreedy.nonempty _ (List.mem_map_of_mem hgroup) (by simp [hnil])
  · intro group hgroup hlength
    have hfits := hgreedy.fits _ (List.mem_map_of_mem hgroup) (by simpa using hlength)
    simpa only [statementOf, List.map_id] using hfits
  · refine ((List.isChain_map _).mp hgreedy.full).imp ?_
    intro group next hfull item hitem
    have hover := hfull (encode item) (by simpa using ⟨item, hitem, rfl⟩)
    simpa only [statementOf, List.map_id, List.map_append, List.map_cons, List.map_nil, id_eq]
      using hover

end DatabaseDump.Sql.Insert

namespace DatabaseDump.Dump.Inserts

open Sql.Insert Work

/--
What is left behind by a table whose rows do not break off: one statement for each group
of the greedy cut of its rows, and the blank lines.
-/
theorem exists_start_writeTable (budget : Int) (table : Value) (columns : List Column)
    (rows : List Row) (session : Session) :
    ∃ groups : List (List Row),
      IsGreedy table.toText budget (Sql.tuple (columns.map Column.tag)) rows groups
      ∧ let stats : TableStats := { table, rows := rows.length, statements := groups.length }
        start (writeTable (.bytes budget) table columns ⟨rows, none⟩) session
          = (.ok stats, Session.logged
              { session with
                pool := (session.pool.lend 2).giveBack
                output := session.output ++ (groups.map (fun group =>
                  .insert table.toText (group.map (Sql.tuple (columns.map Column.tag))))
                    ++ [.endOfRows]) }
              [⟨.debug, summary stats⟩]) := by
  obtain ⟨groups, hgreedy, hmap⟩ := exists_isGreedy table.toText budget
    (Sql.tuple (columns.map Column.tag)) rows
  refine ⟨groups, hgreedy, ?_⟩
  simp only [writeTable, useBuffers, Inserts.groups, Sql.Budget.groups, ← hmap, start_bind,
    start_modify, start_ofResult, start_emitAll, start_note, start_pure, List.map_map,
    List.length_map]
  rfl

/--
**The rows of a table are written as their greedy packing.**

The chunks that are added to the output are one statement for each group of the greedy
cut of the rows, in order, and the blank lines after them. The counts that come back are
those of the rows and of the groups; a table without rows gets no statement.
-/
theorem writeTable_writes_greedy_packing (budget : Int) (table : Value) (columns : List Column)
    (rows : List Row) (session : Session) :
    ∃ groups : List (List Row),
      IsGreedy table.toText budget (Sql.tuple (columns.map Column.tag)) rows groups
      ∧ (∀ others, IsGreedy table.toText budget (Sql.tuple (columns.map Column.tag)) rows others →
          others = groups)
      ∧ (groups = [] ↔ rows = [])
      ∧ ∃ (written : List Sql.Statement) (after : Session),
        start (writeTable (.bytes budget) table columns ⟨rows, none⟩) session
          = (.ok { table, rows := rows.length, statements := groups.length }, after)
        ∧ after.output = session.output ++ written
        ∧ written.map Sql.Statement.bytes
          = (groups.map fun group =>
              Text.utf8 ("INSERT INTO `" ++ table.toText ++ "` VALUES ")
                ++ Sql.commaSeparated (group.map (Sql.tuple (columns.map Column.tag)))
                ++ Text.utf8 ";\n") ++ [Text.utf8 "\n\n\n"] := by
  obtain ⟨groups, hgreedy, hrun⟩ := exists_start_writeTable budget table columns rows session
  refine ⟨groups, hgreedy, fun others h => h.unique hgreedy, hgreedy.eq_nil_iff, _, _, hrun, rfl,
    ?_⟩
  simp only [List.map_append, List.map_map, List.map_cons, List.map_nil]
  rfl

end DatabaseDump.Dump.Inserts
