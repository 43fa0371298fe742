import DatabaseDump.Proofs.Packing

/-!
# The greedy cut has the fewest statements

Rows could be cut into statements in many ways that a budget allows. The greedy cut is never
behind any of them: after as many statements it has written at least as many rows. So what the
greedy cut has left to write is always the end of what the other cut has left, and this goes on
until the other cut is at its end.

It is all about one step. A group of the greedy cut is as long as the budget allows, so a group of
the other cut that begins no later cannot end later: a statement does not shrink when tuples are
added to it, in front or at the end.
-/

namespace DatabaseDump.Sql.Insert

variable {α : Type} {table : String} {budget : Int} {encode : α → Bytes}

/-- `groups` is a cut of `items` that a budget of bytes allows. -/
structure IsAllowed (table : String) (budget : Int) (encode : α → Bytes) (items : List α)
    (groups : List (List α)) : Prop where
  /-- No item is lost, added or moved. -/
  flatten : groups.flatten = items
  /-- No statement is without a tuple. -/
  nonempty : ∀ group ∈ groups, group ≠ []
  /-- A statement stays within the budget or holds a single tuple. -/
  fits : ∀ group ∈ groups,
    ((statementOf table encode group).length : Int) ≤ budget ∨ group.length = 1

theorem IsGreedy.isAllowed {items : List α} {groups : List (List α)}
    (h : IsGreedy table budget encode items groups) :
    IsAllowed table budget encode items groups where
  flatten := h.flatten
  nonempty := h.nonempty
  fits := by
    intro group hgroup
    by_cases hlength : 2 ≤ group.length
    · exact .inl (h.fits group hgroup hlength)
    · have hpos := List.length_pos_iff.mpr (h.nonempty group hgroup)
      exact .inr (by omega)

theorem IsAllowed.tail {items group : List α} {groups : List (List α)}
    (h : IsAllowed table budget encode items (group :: groups)) :
    IsAllowed table budget encode groups.flatten groups where
  flatten := rfl
  nonempty := fun g hg => h.nonempty g (List.mem_cons_of_mem _ hg)
  fits := fun g hg => h.fits g (List.mem_cons_of_mem _ hg)

/-- A larger budget allows more. -/
theorem IsAllowed.mono {items : List α} {groups : List (List α)} {larger : Int}
    (h : IsAllowed table budget encode items groups) (hle : budget ≤ larger) :
    IsAllowed table larger encode items groups where
  flatten := h.flatten
  nonempty := h.nonempty
  fits := by
    intro group hgroup
    rcases h.fits group hgroup with hsize | hsingle
    · exact .inl (by omega)
    · exact .inr hsingle

/-! ## A part of a group has the smaller statement -/

/-- A statement does not shrink when tuples are put in front of its group. -/
theorem length_statementOf_le_append (table : String) (encode : α → Bytes) (front : List α)
    {group : List α} (h : group ≠ []) :
    (statementOf table encode group).length
      ≤ (statementOf table encode (front ++ group)).length := by
  cases front with
  | nil => exact Nat.le_refl _
  | cons first front =>
    obtain ⟨item, rest, rfl⟩ := List.exists_cons_of_ne_nil h
    simp only [statementOf, List.cons_append, List.map_cons, List.map_append,
      length_statement_cons, followingSize_append, followingSize_cons]
    omega

theorem length_statementOf_le_within (table : String) (encode : α → Bytes) (front back : List α)
    {group : List α} (h : group ≠ []) :
    (statementOf table encode group).length
      ≤ (statementOf table encode (front ++ (group ++ back))).length := by
  have hback : group ++ back ≠ [] := by simp [h]
  calc (statementOf table encode group).length
    _ ≤ (statementOf table encode (group ++ back)).length :=
        length_statementOf_append_le table encode h back
    _ ≤ (statementOf table encode (front ++ (group ++ back))).length :=
        length_statementOf_le_append table encode front hback

/-! ## The greedy cut stays ahead -/

/-- No statement that is allowed holds a group of the greedy cut and the item after it. -/
theorem IsGreedy.not_allowed_beyond {items group more : List α} {item : α}
    {groups : List (List α)} (h : IsGreedy table budget encode items (group :: groups))
    (hnext : groups.flatten = item :: more) (front back : List α) :
    let part := front ++ (group ++ item :: back)
    ¬(((statementOf table encode part).length : Int) ≤ budget ∨ part.length = 1) := by
  intro part
  have hover := h.lt_of_next hnext
  have hgrow : (statementOf table encode (group ++ [item])).length
      ≤ (statementOf table encode part).length := by
    have hwithin := length_statementOf_le_within table encode front back
      (List.append_ne_nil_of_right_ne_nil group (List.cons_ne_nil item []))
    rwa [List.append_assoc, List.singleton_append] at hwithin
  have hlength : part.length = front.length + (group.length + (back.length + 1)) := by
    simp only [part, List.length_append, List.length_cons]
  have hgroup := List.length_pos_iff.mpr (h.nonempty group (by simp))
  rintro (hsize | hsingle)
  · omega
  · omega

/-- What a greedy cut leaves after its first group is an end of what another cut leaves. -/
theorem IsGreedy.flatten_suffix {items others group part : List α} {groups cut : List (List α)}
    (h : IsGreedy table budget encode items (group :: groups))
    (hcut : IsAllowed table budget encode others (part :: cut)) (hsuffix : items <:+ others) :
    groups.flatten <:+ cut.flatten := by
  have hgroups : groups.flatten <:+ items := ⟨group, h.flatten⟩
  have hrest : cut.flatten <:+ others := ⟨part, hcut.flatten⟩
  rcases List.suffix_or_suffix_of_suffix (hgroups.trans hsuffix) hrest with hahead | hbehind
  · exact hahead
  · obtain ⟨more, hmore⟩ := hbehind
    cases more with
    | nil => exact ⟨[], hmore.symm⟩
    | cons item more =>
      -- the other cut would have got further with its first group
      exfalso
      obtain ⟨front, hfront⟩ := hsuffix
      have hsame : front ++ (group ++ item :: more) ++ cut.flatten = part ++ cut.flatten := by
        calc front ++ (group ++ item :: more) ++ cut.flatten
          _ = front ++ (group ++ groups.flatten) := by rw [← hmore]; simp
          _ = front ++ items := by rw [← h.flatten]; rfl
          _ = part ++ cut.flatten := hfront.trans hcut.flatten.symm
      have hpart : front ++ (group ++ item :: more) = part := List.append_cancel_right hsame
      refine h.not_allowed_beyond hmore.symm front more ?_
      rw [hpart]
      exact hcut.fits part (by simp)

/-- **The greedy cut of an end of the items has no more groups than any cut of all items.** -/
theorem IsGreedy.length_le_of_suffix {items others : List α} {groups cut : List (List α)}
    (h : IsGreedy table budget encode items groups)
    (hcut : IsAllowed table budget encode others cut) (hsuffix : items <:+ others) :
    groups.length ≤ cut.length := by
  induction cut generalizing items others groups with
  | nil =>
    have hothers : others = [] := hcut.flatten.symm
    have hitems : items = [] := List.suffix_nil.mp (hothers ▸ hsuffix)
    rw [h.eq_nil_iff.mpr hitems]
  | cons part cut ih =>
    cases groups with
    | nil => exact Nat.zero_le _
    | cons group groups =>
      have hrest := ih h.tail hcut.tail (h.flatten_suffix hcut hsuffix)
      rw [List.length_cons, List.length_cons]
      omega

/-- No cut that the budget allows has fewer groups than the greedy one. -/
theorem IsGreedy.length_le {items : List α} {groups cut : List (List α)}
    (h : IsGreedy table budget encode items groups)
    (hcut : IsAllowed table budget encode items cut) : groups.length ≤ cut.length :=
  h.length_le_of_suffix hcut List.suffix_rfl

end DatabaseDump.Sql.Insert

namespace DatabaseDump.Dump.Inserts

open Sql.Insert Work

/--
**A table is written with as few statements as its budget allows.**

The number of statements that comes back is that of the insert statements in the output. They
are an allowed cut of the rows, and no other allowed cut is shorter. What a smaller budget allows
a larger one allows too, so it never takes more statements, wherever the table is written.
-/
theorem writeTable_takes_fewest_statements (budget : Int) (table : Value)
    (columns : List Column) (rows : List Row) (session : Session) :
    let encode := Sql.tuple (columns.map Column.tag)
    ∃ (stats : TableStats) (after : Session),
      start (writeTable (.bytes budget) table columns ⟨rows, none⟩) session = (.ok stats, after)
      ∧ (∃ groups : List (List Row),
        IsAllowed table.toText budget encode rows groups
        ∧ stats.statements = groups.length
        ∧ after.output = session.output
          ++ (groups.map (fun group => .insert table.toText (group.map encode)) ++ [.endOfRows]))
      ∧ (∀ cut, IsAllowed table.toText budget encode rows cut → stats.statements ≤ cut.length)
      ∧ ∀ larger, budget ≤ larger → ∀ elsewhere : Session,
        ∃ (fewer : TableStats) (later : Session),
          start (writeTable (.bytes larger) table columns ⟨rows, none⟩) elsewhere
            = (.ok fewer, later)
          ∧ fewer.statements ≤ stats.statements := by
  intro encode
  obtain ⟨groups, hgreedy, hrun⟩ := exists_start_writeTable budget table columns rows session
  refine ⟨_, _, hrun, ⟨groups, hgreedy.isAllowed, rfl, rfl⟩, fun cut hcut => hgreedy.length_le hcut,
    ?_⟩
  intro larger hle elsewhere
  obtain ⟨others, hothers, hrun'⟩ :=
    exists_start_writeTable larger table columns rows elsewhere
  exact ⟨_, _, hrun', hothers.length_le (hgreedy.isAllowed.mono hle)⟩

end DatabaseDump.Dump.Inserts
