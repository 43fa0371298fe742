import DatabaseDump.Dump.Filling
import DatabaseDump.Proofs.Packing

/-!
# Buffers do not show

Statements are filled in buffers that were used before, for other tables and by dumps that
failed. `write_eq` says that none of that shows: with a pool whose free buffers are empty, the
statements that are flushed are those of the groups that a budget cuts, and the pool is left
as it is by a loan that is given back at once.

Three arguments are kept apart. `Holds` says what the buffers hold while tuples come in, in terms
of the group of tuples in the statement; each way to take a tuple keeps it. How the groups
come about tuple by tuple is `regroup`, which agrees with the packing of all tuples at once. The
counters do not look at the buffers: they count the tuples that were read and the statements
that were flushed, whatever these are.
-/

namespace DatabaseDump

open Sql (commaSeparated)

/-! ## Pools whose buffers can be lent -/

/-- All free buffers are empty, whatever is lent. -/
def Pool.IsClean (pool : Pool) : Prop := ∀ buffer ∈ pool.free, buffer.content = []

/-- Nothing is lent, and all free buffers are empty. -/
structure Pool.IsReady (pool : Pool) : Prop where
  loans : pool.loans = []
  free : ∀ buffer ∈ pool.free, buffer.content = []

namespace Pool

variable {pool : Pool}

theorem IsReady.isClean (h : pool.IsReady) : pool.IsClean := h.free

theorem isReady_new : ({} : Pool).IsReady := ⟨rfl, by simp⟩

theorem IsClean.content_take (h : pool.IsClean) : pool.take.1.content = [] := by
  unfold take
  split
  · rename_i buffer free hfree
    exact h buffer (hfree ▸ List.mem_cons_self)
  · rfl

theorem IsClean.take (h : pool.IsClean) : pool.take.2.IsClean := by
  unfold Pool.take
  split
  · rename_i buffer free hfree
    exact fun other hother => h other (hfree ▸ List.mem_cons_of_mem _ hother)
  · exact h

@[simp] theorem loans_take (pool : Pool) : pool.take.2.loans = pool.loans := by
  unfold take
  split
  · rfl
  · rfl

/-- Both buffers of a table are given back empty. -/
theorem giveBack_lend_two (pool : Pool) :
    (pool.lend 2).giveBack = { pool.take.2.take.2 with
      free := pool.take.2.take.1.cleared :: pool.take.1.cleared :: pool.take.2.take.2.free } := rfl

/-- A table leaves the pool as clean as it was. -/
theorem IsClean.giveBack_lend_two (h : pool.IsClean) : (pool.lend 2).giveBack.IsClean := by
  rw [Pool.giveBack_lend_two]
  exact List.forall_mem_cons.mpr ⟨rfl, List.forall_mem_cons.mpr ⟨rfl, h.take.take⟩⟩

theorem loans_giveBack_lend_two (pool : Pool) : (pool.lend 2).giveBack.loans = pool.loans := by
  rw [giveBack_lend_two]
  exact (loans_take _).trans (loans_take _)

theorem IsReady.giveBack_lend_two (h : pool.IsReady) : (pool.lend 2).giveBack.IsReady :=
  ⟨(loans_giveBack_lend_two pool).trans h.loans, h.isClean.giveBack_lend_two⟩

end Pool

/-! ## Groups tuple by tuple -/

namespace Sql

/-- A tuple that comes last is separated from those before it. -/
theorem commaSeparated_append_singleton {group : List Bytes} (h : group ≠ []) (tuple : Bytes) :
    commaSeparated (group ++ [tuple]) = commaSeparated group ++ [0x2C] ++ tuple := by
  induction group with
  | nil => exact absurd rfl h
  | cons first group ih =>
    cases group with
    | nil => simp [commaSeparated, List.intercalate]
    | cons next group =>
      have hrest := ih (List.cons_ne_nil _ _)
      simp only [commaSeparated, List.intercalate, List.cons_append, List.intersperse,
        List.flatten_cons, List.append_assoc] at hrest ⊢
      rw [hrest]

namespace Insert

variable {table : String}

theorem length_statement_append_singleton (table : String) {group : List Bytes}
    (h : group ≠ []) (tuple : Bytes) :
    (statement table (group ++ [tuple])).length
      = (statement table group).length + (tuple.length + 1) := by
  obtain ⟨first, rest, rfl⟩ := List.exists_cons_of_ne_nil h
  rw [List.cons_append, length_statement_cons, length_statement_cons, followingSize_append,
    followingSize_cons, followingSize_nil]
  omega

theorem length_statement_singleton (table : String) (tuple : Bytes) :
    (statement table [tuple]).length
      = (opening table).length + tuple.length + closing.length := by
  rw [length_statement_cons, followingSize_nil, Nat.add_zero]

/-- The groups that come about when tuples follow those of a group, one at a time. -/
def regroup (exceeds : Nat → Bool) (table : String) (group : List Bytes) :
    List Bytes → List (List Bytes)
  | [] => [group]
  | tuple :: rest =>
    if exceeds (statement table (group ++ [tuple])).length then
      group :: regroup exceeds table [tuple] rest
    else regroup exceeds table (group ++ [tuple]) rest

/-- Taking tuples one at a time cuts like taking all that fit at once. -/
theorem regroup_eq_pack (budget : Int) {group : List Bytes} (h : group ≠ [])
    (tuples : List Bytes) :
    regroup (fun size => decide (budget < size)) table group tuples
      = (group ++ (takeFitting (budget - (statement table group).length) tuples).1)
        :: pack table budget (takeFitting (budget - (statement table group).length) tuples).2 := by
  induction tuples generalizing group with
  | nil => simp [regroup, takeFitting]
  | cons tuple rest ih =>
    have hsize := length_statement_append_singleton table h tuple
    have hfits : decide (budget < (statement table (group ++ [tuple])).length)
        = decide (budget - (statement table group).length < tuple.length + 1) := by
      rw [hsize]
      exact decide_eq_decide.mpr (by push_cast; omega)
    rw [regroup, hfits, takeFitting]
    -- either the tuple opens the next group, or it takes its part of the room that is left
    by_cases hroom : budget - (statement table group).length < tuple.length + 1
    · rw [if_pos hroom, if_pos (decide_eq_true hroom), ih (List.cons_ne_nil _ _), pack,
        List.append_nil, roomAfter, length_statement_singleton]
      rfl
    · have hrest : budget - (statement table (group ++ [tuple])).length
          = budget - (statement table group).length - (tuple.length + 1) := by
        rw [hsize]
        push_cast
        omega
      rw [if_neg hroom, if_neg (by simpa using hroom), ih (by simp), hrest, List.append_assoc]
      rfl

theorem regroup_singleton_eq_pack (budget : Int) (tuple : Bytes) (rest : List Bytes) :
    regroup (fun size => decide (budget < size)) table [tuple] rest
      = pack table budget (tuple :: rest) := by
  rw [regroup_eq_pack budget (List.cons_ne_nil _ _), pack, roomAfter, length_statement_singleton]
  rfl

/-- Where no statement is too large, all tuples go to one. -/
theorem regroup_of_never_exceeds (group tuples : List Bytes) :
    regroup (fun _ => false) table group tuples = [group ++ tuples] := by
  induction tuples generalizing group with
  | nil => rw [regroup, List.append_nil]
  | cons tuple rest ih =>
    rw [regroup, if_neg Bool.false_ne_true, ih, List.append_assoc, List.singleton_append]

end Insert

end Sql

/-! ## What the buffers hold -/

namespace Dump.Filling

open Sql.Insert (opening closing statement regroup)

variable {table : String} {group : List Bytes} {tuple : Bytes} {filling : Filling}

/-- The numbers of the buffers, which stay the same all the time. -/
def numbers (filling : Filling) : Nat × Nat := (filling.batch.number, filling.pending.number)

theorem numbers_fill (budget : Sql.Budget) (table : String) (tuples : List Bytes)
    (filling : Filling) : (fill budget table tuples filling).2.numbers = filling.numbers := by
  induction tuples generalizing filling with
  | nil => rfl
  | cons tuple rest ih =>
    rw [fill]
    split
    · rfl
    · exact ih _
    · exact ih _

theorem numbers_ended (table : String) (filling : Filling) :
    (filling.ended table).numbers = filling.numbers := by
  unfold ended
  split
  · rfl
  · rfl

/-- Every tuple that is read is counted, and all are read unless a comparison fails. -/
theorem rows_of_fill {budget : Sql.Budget} {tuples : List Bytes} {filled : Filling}
    (h : fill budget table tuples filling = (none, filled)) :
    filled.rows = filling.rows + tuples.length := by
  induction tuples generalizing filling with
  | nil =>
    obtain rfl : filling = filled := (Prod.mk.inj h).2
    rfl
  | cons tuple rest ih =>
    rw [fill] at h
    cases hoverflows : (filling.read tuple).overflows budget with
    | error failure =>
      rw [hoverflows] at h
      cases h
    | ok overflows =>
      rw [hoverflows] at h
      have hrest : filled.rows = filling.rows + 1 + rest.length := by
        -- the tuple is counted when it is read, not when it is taken
        cases overflows with
        | true => exact (ih h :)
        | false => exact (ih h :)
      rw [hrest, List.length_cons]
      omega

/-- As many statements were counted as were flushed. -/
def CountsStatements (filling : Filling) : Prop := filling.statements = filling.chunks.length

theorem countsStatements_borrow (table : String) (pool : Pool) : (borrow table pool).1.CountsStatements := rfl

/-- A statement is counted when it is flushed, and opening the next one counts nothing. -/
theorem CountsStatements.flushed_opened (h : filling.CountsStatements) :
    (filling.flushed.opened table).CountsStatements := by
  show filling.statements + 1 = (filling.chunks ++ [_]).length
  rw [List.length_append, List.length_singleton, h]

/-- **While tuples are read, as many statements are counted as are flushed.** -/
theorem CountsStatements.fill (h : filling.CountsStatements) (budget : Sql.Budget) (table : String)
    (tuples : List Bytes) : (fill budget table tuples filling).2.CountsStatements := by
  induction tuples generalizing filling with
  | nil => exact h
  | cons tuple rest ih =>
    have hread : (filling.read tuple).CountsStatements := h
    rw [Filling.fill]
    split
    · exact hread
    · exact ih hread.flushed_opened
    · exact ih hread

theorem CountsStatements.ended (h : filling.CountsStatements) (table : String) :
    (filling.ended table).CountsStatements := by
  unfold Filling.ended
  split
  · exact h.flushed_opened
  · exact h

theorem rows_ended (table : String) (filling : Filling) :
    (filling.ended table).rows = filling.rows := by
  unfold ended
  split
  · rfl
  · rfl

/-- The statement has the tuples of a group, and no tuple is pending. -/
structure Holds (table : String) (group : List Bytes) (filling : Filling) : Prop where
  batch : filling.batch.content = opening table ++ commaSeparated group
  pending : filling.pending.content = []
  start : filling.start = (opening table).length
  tuples : ∀ tuple ∈ group, tuple ≠ []

theorem holds_borrow {pool : Pool} (hclean : pool.IsClean) (table : String) :
    (borrow table pool).1.Holds table [] where
  batch := by
    simp [borrow, opened, Buffer.append, hclean.content_take, hclean.take.content_take,
      commaSeparated, List.intercalate]
  pending := rfl
  start := by simp [borrow, opened, Buffer.append, hclean.content_take]
  tuples := by simp

theorem Holds.isFilled (h : filling.Holds table group) :
    filling.isFilled = !group.isEmpty := by
  rw [Filling.isFilled, h.batch, h.start, List.length_append]
  cases group with
  | nil => simp [commaSeparated, List.intercalate]
  | cons first rest =>
    have hfirst : 0 < first.length := List.length_pos_iff.mpr (h.tuples first (by simp))
    rw [Sql.Insert.length_commaSeparated_cons]
    simp only [List.isEmpty_cons, Bool.not_false, decide_eq_true_eq]
    omega

theorem Holds.isFilled_of_ne_nil (h : filling.Holds table group) (hgroup : group ≠ []) :
    filling.isFilled = true := by
  rw [h.isFilled]
  simpa using hgroup

/-- The size that is compared is that of the statement with the tuple. -/
theorem Holds.size_read (h : filling.Holds table group) (hgroup : group ≠ []) :
    (filling.read tuple).size = (statement table (group ++ [tuple])).length := by
  have hfilled : (filling.read tuple).isFilled = true := h.isFilled_of_ne_nil hgroup
  rw [Sql.Insert.length_statement_append_singleton table hgroup, size, separator, if_pos hfilled]
  simp only [read, Buffer.append, h.batch, h.pending, statement, List.length_append,
    List.nil_append, List.length_singleton]
  omega

/-- A tuple that fits goes behind the others. -/
theorem Holds.joined_read (h : filling.Holds table group) (htuple : tuple ≠ []) :
    (filling.read tuple).joined.Holds table (group ++ [tuple]) where
  batch := by
    -- reading the tuple does not change whether the statement has one already
    have hseparator : (filling.read tuple).separator = if group = [] then [] else [0x2C] := by
      rw [separator]
      show (if filling.isFilled = true then _ else _) = _
      rw [h.isFilled]
      cases group <;> rfl
    have hjoined : (filling.read tuple).joined.batch.content
        = filling.batch.content ++ (filling.read tuple).separator ++ tuple := by
      simp [joined, read, Buffer.append, h.pending]
    rw [hjoined, h.batch, hseparator]
    by_cases hgroup : group = []
    · subst hgroup
      simp [commaSeparated, List.intercalate]
    · rw [if_neg hgroup, Sql.commaSeparated_append_singleton hgroup]
      simp only [List.append_assoc]
  pending := rfl
  start := h.start
  tuples := by
    intro other hother
    rcases List.mem_append.mp hother with hold | hnew
    · exact h.tuples other hold
    · rw [List.mem_singleton.mp hnew]
      exact htuple

/-- The tuple that was too much opens the next statement. -/
theorem Holds.opened_read (h : filling.Holds table group) (htuple : tuple ≠ []) :
    ((filling.read tuple).flushed.opened table).Holds table [tuple] where
  batch := by
    simp [opened, flushed, read, Buffer.append, Buffer.cleared, h.pending, commaSeparated,
      List.intercalate]
  pending := rfl
  start := by simp [opened, flushed, Buffer.append, Buffer.cleared]
  tuples := by simpa using htuple

/-- What is flushed is the statement of the group. -/
theorem Holds.chunks_flushed (h : filling.Holds table group) :
    ((filling.read tuple).flushed.opened table).chunks
      = filling.chunks ++ [statement table group] := by
  simp [opened, flushed, read, h.batch, statement]

/-- **The buffers go through the groups one by one, and only the last one is still in them.** -/
theorem exists_of_fill {budget : Sql.Budget} {exceeds : Nat → Bool}
    (hexceeds : ∀ size, budget.isExceeded size = .ok (exceeds size)) {tuples : List Bytes}
    (htuples : ∀ tuple ∈ tuples, tuple ≠ []) (h : filling.Holds table group)
    (hgroup : group ≠ []) :
    ∃ front last filled, regroup exceeds table group tuples = front ++ [last]
      ∧ fill budget table tuples filling = (none, filled)
      ∧ filled.Holds table last ∧ last ≠ []
      ∧ filled.chunks = filling.chunks ++ front.map (statement table) := by
  induction tuples generalizing group filling with
  | nil => exact ⟨[], group, filling, rfl, rfl, h, hgroup, (List.append_nil _).symm⟩
  | cons tuple rest ih =>
    obtain ⟨htuple, hrest⟩ := List.forall_mem_cons.mp htuples
    have hfilled : (filling.read tuple).isFilled = true := h.isFilled_of_ne_nil hgroup
    have hoverflows : (filling.read tuple).overflows budget
        = .ok (exceeds (statement table (group ++ [tuple])).length) := by
      rw [overflows, if_pos hfilled, hexceeds, h.size_read hgroup]
    rw [fill, regroup, hoverflows]
    -- the statement is flushed and the tuple opens the next one, or the statement goes on
    cases exceeds (statement table (group ++ [tuple])).length with
    | true =>
      obtain ⟨front, last, filled, hregroup, hfill, hholds, hlast, hchunks⟩ :=
        ih hrest (h.opened_read htuple) (List.cons_ne_nil _ _)
      refine ⟨group :: front, last, filled, ?_, hfill, hholds, hlast, ?_⟩
      · rw [if_pos rfl, hregroup]
        rfl
      · rw [hchunks, h.chunks_flushed, List.append_assoc, List.map_cons]
        rfl
    | false =>
      obtain ⟨front, last, filled, hregroup, hfill, hholds, hlast, hchunks⟩ :=
        ih hrest (h.joined_read htuple) (by simp)
      exact ⟨front, last, filled, hregroup, hfill, hholds, hlast, hchunks⟩

/-! ## Whole tables -/

/-- A budget that every size can be compared with cuts as its comparisons say. -/
theorem groups_eq_regroup {budget : Sql.Budget} {exceeds : Nat → Bool}
    (hexceeds : ∀ size, budget.isExceeded size = .ok (exceeds size)) (tuple : Bytes)
    (rest : List Bytes) :
    budget.groups table (tuple :: rest) = .ok (regroup exceeds table [tuple] rest) := by
  cases budget with
  | bytes count =>
    obtain rfl : (fun size => decide ((count : Int) < (size : Nat))) = exceeds :=
      funext fun size => Except.ok.inj (hexceeds size)
    rw [Sql.Insert.regroup_singleton_eq_pack]
    rfl
  | unlimited =>
    obtain rfl : (fun _ => false) = exceeds := funext fun size => Except.ok.inj (hexceeds size)
    rw [Sql.Insert.regroup_of_never_exceeds]
    rfl
  | incomparable shape => cases hexceeds 0

/-- A budget that no size can be compared with fails at the second tuple. -/
theorem groups_incomparable (shape : Shape) (first second : Bytes) (rest : List Bytes) :
    Sql.Budget.groups table (first :: second :: rest) (.incomparable shape)
      = .error (.notComparable .int shape) := by
  have hmany : ¬(first :: second :: rest).length < 2 := by simp
  rw [Sql.Budget.groups, if_neg hmany]

/-- The first tuple of a statement is not compared with anything. -/
theorem Holds.fill_cons (h : filling.Holds table []) (budget : Sql.Budget) (tuple : Bytes)
    (rest : List Bytes) : fill budget table (tuple :: rest) filling
      = fill budget table rest (filling.read tuple).joined := by
  have hempty : (filling.read tuple).isFilled = false := h.isFilled
  rw [fill, overflows, hempty]
  rfl

/-- What is left in the buffers at the end is flushed as the last statement. -/
theorem Holds.chunks_ended (h : filling.Holds table group) (hgroup : group ≠ []) :
    (filling.ended table).chunks = filling.chunks ++ [statement table group] := by
  rw [ended, if_pos (h.isFilled_of_ne_nil hgroup)]
  simp [opened, flushed, h.batch, statement]

/-- The tuples were cut into groups, and the last of these is still in the buffers. -/
structure Ends (table : String) (groups : List (List Bytes)) (filling : Filling) : Prop where
  chunks : filling.chunks = groups.dropLast.map (statement table)
  ended : (filling.ended table).chunks = groups.map (statement table)

/--
**The groups that a budget cuts are those that the buffers go through.** The first tuple is taken
without a comparison, so a single one is written under any budget.
-/
theorem exists_ends_of_fill {budget : Sql.Budget} {tuples : List Bytes}
    (htuples : ∀ tuple ∈ tuples, tuple ≠ []) (h : filling.Holds table [])
    (hchunks : filling.chunks = []) {groups : List (List Bytes)}
    (hgroups : budget.groups table tuples = .ok groups) :
    ∃ filled, fill budget table tuples filling = (none, filled) ∧ filled.Ends table groups := by
  cases tuples with
  | nil =>
    obtain rfl : [] = groups := by
      cases budget <;> simpa [Sql.Budget.groups] using hgroups
    have hempty : filling.isFilled = false := h.isFilled
    refine ⟨filling, rfl, hchunks, ?_⟩
    rw [Filling.ended, hempty, if_neg Bool.false_ne_true]
    exact hchunks
  | cons tuple rest =>
    obtain ⟨htuple, hrest⟩ := List.forall_mem_cons.mp htuples
    have hfirst := h.fill_cons budget tuple rest
    have hholds := h.joined_read htuple
    have hsome : [] ++ [tuple] ≠ ([] : List Bytes) := List.cons_ne_nil _ _
    have hcomparable : ∀ exceeds : Nat → Bool,
        (∀ size, budget.isExceeded size = .ok (exceeds size)) → ∃ filled,
          fill budget table (tuple :: rest) filling = (none, filled)
            ∧ filled.Ends table groups := by
      intro exceeds hexceeds
      obtain ⟨front, last, filled, hregroup, hfill, hlast, hne, hflushed⟩ :=
        exists_of_fill hexceeds hrest hholds hsome
      rw [groups_eq_regroup hexceeds] at hgroups
      obtain rfl : front ++ [last] = groups := hregroup.symm.trans (Except.ok.inj hgroups)
      have hfront : filled.chunks = front.map (statement table) := by
        rw [hflushed]
        show filling.chunks ++ _ = _
        rw [hchunks, List.nil_append]
      refine ⟨filled, hfirst.trans hfill, ?_, ?_⟩
      · rw [List.dropLast_concat, hfront]
      · rw [hlast.chunks_ended hne, hfront, List.map_append, List.map_singleton]
    -- a budget can be compared with every size, or with none, where one tuple is still taken
    cases budget with
    | bytes count => exact hcomparable (fun size => decide ((count : Int) < size)) fun _ => rfl
    | unlimited => exact hcomparable (fun _ => false) fun _ => rfl
    | incomparable shape =>
      cases rest with
      | nil =>
        obtain rfl : [[tuple]] = groups := by simpa [Sql.Budget.groups] using hgroups
        refine ⟨_, hfirst, hchunks, ?_⟩
        rw [hholds.chunks_ended hsome]
        show filling.chunks ++ _ = _
        rw [hchunks]
        rfl
      | cons second rest =>
        rw [groups_incomparable] at hgroups
        cases hgroups

/--
No statement was flushed before sizes turn out not to be comparable, which the second tuple
shows.
-/
theorem exists_of_fill_error {budget : Sql.Budget} {tuples : List Bytes} {failure : Failure}
    (htuples : ∀ tuple ∈ tuples, tuple ≠ []) (h : filling.Holds table [])
    (hgroups : budget.groups table tuples = .error failure) :
    ∃ filled, fill budget table tuples filling = (some failure, filled)
      ∧ filled.chunks = filling.chunks ∧ filled.rows = filling.rows + 2 := by
  cases budget with
  | bytes | unlimited => cases hgroups
  | incomparable shape =>
    match tuples, htuples with
    | [], _ | [_], _ => simp [Sql.Budget.groups] at hgroups
    | first :: second :: rest, htuples =>
      rw [groups_incomparable] at hgroups
      obtain rfl := Except.error.inj hgroups
      have hholds := h.joined_read (htuples first (by simp))
      have hfilled : ((filling.read first).joined.read second).isFilled = true := hholds.isFilled
      refine ⟨(filling.read first).joined.read second, ?_, rfl, rfl⟩
      rw [h.fill_cons, fill, overflows, hfilled]
      rfl

/-- Only the numbers of the buffers matter when they are given back. -/
theorem giveBack_eq_of_numbers {pool : Pool}
    (h : filling.numbers = (borrow table pool).1.numbers) :
    filling.giveBack (borrow table pool).2 = (pool.lend 2).giveBack := by
  obtain ⟨hbatch, hpending⟩ := Prod.mk.inj h
  rw [Pool.giveBack_lend_two]
  simp only [giveBack, Pool.giveBack, Buffer.cleared, List.map_cons, List.map_nil, hbatch,
    hpending]
  rfl

/--
**Filling buffers flushes the statements of the groups.**

When the rows break off, the statement in the buffers is lost, though its rows were counted. When
sizes cannot be compared, two rows have been read by then and nothing has been flushed. The pool
is left the same in all cases.
-/
theorem write_eq {pool : Pool} (hclean : pool.IsClean) (budget : Sql.Budget) (table : String)
    {tuples : List Bytes} (htuples : ∀ tuple ∈ tuples, tuple ≠ []) (last : Option Failure) :
    write budget table tuples last pool
      = match budget.groups table tuples, last with
        | .error failure, _ => ⟨some failure, [], 2, 0, (pool.lend 2).giveBack⟩
        | .ok groups, some failure => ⟨some failure, groups.dropLast.map (statement table),
            tuples.length, groups.dropLast.length, (pool.lend 2).giveBack⟩
        | .ok groups, none =>
          ⟨none, groups.map (statement table) ++ [Sql.Statement.endOfRows.bytes],
            tuples.length, groups.length, (pool.lend 2).giveBack⟩ := by
  have hholds := holds_borrow hclean table
  have hnumbers := numbers_fill budget table tuples (borrow table pool).1
  have hcounted := (countsStatements_borrow table pool).fill budget table tuples
  unfold write
  dsimp only
  cases hgroups : budget.groups table tuples with
  | error failure =>
    obtain ⟨filled, hfill, hchunks, hrows⟩ := exists_of_fill_error htuples hholds hgroups
    have hnone : filled.chunks = [] := hchunks
    have htwo : filled.rows = 2 := hrows
    -- the buffers are cleared when they are given back, so only their numbers matter
    rw [hfill] at hnumbers hcounted ⊢
    have hzero : filled.statements = 0 := by
      rw [hcounted, hnone]
      rfl
    cases last <;> simp [hnone, htwo, hzero, giveBack_eq_of_numbers hnumbers]
  | ok groups =>
    obtain ⟨filled, hfill, hends⟩ := exists_ends_of_fill htuples hholds rfl hgroups
    have hrows : filled.rows = tuples.length := (rows_of_fill hfill).trans (Nat.zero_add _)
    rw [hfill] at hnumbers hcounted ⊢
    cases last with
    | some failure =>
      have hstatements : filled.statements = groups.dropLast.length := by
        rw [hcounted, hends.chunks, List.length_map]
      simp [hends.chunks, hrows, hstatements, giveBack_eq_of_numbers hnumbers]
    | none =>
      have hended := (numbers_ended table filled).trans hnumbers
      have hstatements : (filled.ended table).statements = groups.length := by
        rw [hcounted.ended table, hends.ended, List.length_map]
      simp [hends.ended, rows_ended, hrows, hstatements, giveBack_eq_of_numbers hended]

theorem tuple_ne_nil_of_mem {tags : List TypeTag} {rows : List Row} :
    ∀ tuple ∈ rows.map (Sql.tuple tags), tuple ≠ [] := by
  intro tuple hmem
  obtain ⟨row, -, rfl⟩ := List.mem_map.mp hmem
  exact List.cons_ne_nil _ _

/-- What buffers make of rows does not depend on the pool that they are taken from. -/
theorem chunks_writeRows_eq {pool other : Pool} (hready : pool.IsReady) (hother : other.IsReady)
    (budget : Sql.Budget) (table : Value) (columns : List Column) (source : RowSource Failure) :
    (writeRows budget table columns source pool).chunks
        = (writeRows budget table columns source other).chunks
      ∧ (writeRows budget table columns source pool).failure
        = (writeRows budget table columns source other).failure := by
  rw [writeRows, writeRows, write_eq hready.isClean _ _ tuple_ne_nil_of_mem,
    write_eq hother.isClean _ _ tuple_ne_nil_of_mem]
  generalize budget.groups _ _ = groups
  cases groups <;> cases source.failure <;> exact ⟨rfl, rfl⟩

end Dump.Filling

namespace Dump.Inserts

open Work

/-- The work of a table came out as its rows do in buffers, and what it counts was counted there. -/
structure Flushes (session : Session) (result : Filling.Result)
    (ended : Except Failure TableStats × Session) : Prop where
  outcome : (ended.1.map fun _ => ()) = match result.failure with
    | some failure => .error failure
    | none => .ok ()
  counts : ∀ stats, ended.1 = .ok stats →
    stats.rows = result.rows ∧ stats.statements = result.statements
  output : ∃ statements, ended.2.output = session.output ++ statements
    ∧ statements.map Sql.Statement.bytes = result.chunks
  pool : ended.2.pool = result.pool

theorem map_bytes_insert (table : String) (groups : List (List Bytes)) :
    (groups.map (.insert table)).map Sql.Statement.bytes
      = groups.map (Sql.Insert.statement table) := by
  rw [List.map_map]
  rfl

/-- **A table is written as buffers are filled.** -/
theorem writeTable_flushes_of_isClean {session : Session} (hclean : session.pool.IsClean)
    (budget : Sql.Budget) (table : Value) (columns : List Column) (source : RowSource Failure) :
    Flushes session (Filling.writeRows budget table columns source session.pool)
      (start (writeTable budget table columns source) session) := by
  rw [Filling.writeRows, Filling.write_eq hclean _ _ Filling.tuple_ne_nil_of_mem]
  simp only [writeTable, useBuffers, start_bind, start_modify, start_ofResult, groups]
  cases budget.groups table.toText (source.rows.map (Sql.tuple (columns.map Column.tag))) with
  | error failure =>
    refine ⟨rfl, ?_, ⟨[], (List.append_nil _).symm, rfl⟩, rfl⟩
    intro stats hstats
    cases hstats
  | ok groups =>
    cases source.failure with
    | some failure =>
      refine ⟨rfl, ?_, ⟨_, rfl, map_bytes_insert ..⟩, rfl⟩
      intro stats hstats
      cases hstats
    | none =>
      refine ⟨rfl, ?_, ⟨_, rfl, ?_⟩, rfl⟩
      · intro stats hstats
        cases hstats
        exact ⟨(List.length_map _).symm, rfl⟩
      · rw [List.map_append, map_bytes_insert]
        rfl

theorem writeTable_flushes {session : Session} (hready : session.pool.IsReady)
    (budget : Sql.Budget) (table : Value) (columns : List Column) (source : RowSource Failure) :
    Flushes session (Filling.writeRows budget table columns source session.pool)
      (start (writeTable budget table columns source) session) :=
  writeTable_flushes_of_isClean hready.isClean budget table columns source

end Dump.Inserts

end DatabaseDump
