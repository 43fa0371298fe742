import DatabaseDump.Proofs.Filling

/-!
# Rows that break off

The rows of a table may break off at any point. Tuples are in the buffers then, maybe one that
has just been moved from one buffer to the other, and what was flushed before must not depend
on the rows that would have followed.

The argument is about the cut alone. With the tuples that came, all groups but the last one are
settled: more tuples continue the last group and change none of those before it. What was
flushed are the statements of the settled groups.
-/

namespace DatabaseDump

/-! ## Pools as they come about -/

namespace Pool

variable {pool : Pool}

theorem IsClean.takeMany (h : pool.IsClean) (count : Nat) : (takeMany count pool).2.IsClean := by
  rw [takeMany_eq]
  exact fun buffer hbuffer => h buffer (List.mem_of_mem_drop hbuffer)

theorem IsClean.giveBack (h : pool.IsClean) : pool.giveBack.IsClean := by
  rw [giveBack_eq]
  intro buffer hmem
  rcases List.mem_append.mp hmem with hback | hfree
  · -- a buffer that comes back has been emptied
    obtain ⟨lent, -, rfl⟩ := List.mem_map.mp (List.mem_reverse.mp hback)
    rfl
  · exact h buffer hfree

/-- **No step makes a free buffer that is not empty.** -/
theorem IsClean.step (h : pool.IsClean) (s : Step) : (pool.step s).IsClean := by
  cases s with
  | lend count => exact h.takeMany count
  | write bytes =>
    rw [Pool.step, write_eq]
    exact h
  | giveBack => exact h.giveBack

/-- **Whatever was done with a pool, its free buffers are empty.** -/
theorem isClean_steps (list : List Step) : (({} : Pool).steps list).IsClean := by
  have hall : ∀ pool : Pool, pool.IsClean → (pool.steps list).IsClean := by
    induction list with
    | nil => exact fun _ h => h
    | cons s list ih => exact fun _ h => ih _ (h.step s)
  exact hall {} isReady_new.isClean

theorem length_free_take (pool : Pool) : pool.take.2.free.length = pool.free.length - 1 := by
  unfold take
  split
  · rename_i buffer free hfree
    rw [hfree]
    rfl
  · rename_i hfree
    rw [hfree]
    rfl

/-- A table makes new buffers only where fewer than two are free. -/
theorem length_free_giveBack_lend_two (pool : Pool) :
    (pool.lend 2).giveBack.free.length = max 2 pool.free.length := by
  rw [giveBack_lend_two, List.length_cons, List.length_cons, length_free_take, length_free_take]
  omega

/-- The two buffers that a table took from a pool are back in it, empty. -/
structure HasBack (before after : Pool) : Prop where
  free : after.free = before.take.2.take.1.cleared :: before.take.1.cleared
    :: before.take.2.take.2.free
  count : after.free.length = max 2 before.free.length
  clean : after.IsClean
  loans : after.loans = before.loans

theorem IsClean.hasBack_giveBack_lend_two (h : pool.IsClean) :
    HasBack pool (pool.lend 2).giveBack where
  free := rfl
  count := length_free_giveBack_lend_two pool
  clean := h.giveBack_lend_two
  loans := loans_giveBack_lend_two pool

end Pool

/-! ## Settled groups -/

namespace Sql.Insert

variable {table : String}

theorem regroup_ne_nil (exceeds : Nat → Bool) (group tuples : List Bytes) :
    regroup exceeds table group tuples ≠ [] := by
  induction tuples generalizing group with
  | nil => exact List.cons_ne_nil _ _
  | cons tuple rest ih =>
    rw [regroup]
    split
    · exact List.cons_ne_nil _ _
    · exact ih _

/-- More tuples continue the last group and leave those before it as they are. -/
theorem exists_regroup_append (table : String) (exceeds : Nat → Bool)
    (group tuples : List Bytes) :
    ∃ front last, regroup exceeds table group tuples = front ++ [last]
      ∧ ∀ more, regroup exceeds table group (tuples ++ more)
        = front ++ regroup exceeds table last more := by
  induction tuples generalizing group with
  | nil => exact ⟨[], group, rfl, fun _ => rfl⟩
  | cons tuple rest ih =>
    simp only [List.cons_append, regroup]
    split
    · -- the group is settled before the tuple is taken
      obtain ⟨front, last, hcut, hmore⟩ := ih [tuple]
      refine ⟨group :: front, last, by rw [hcut]; rfl, fun more => ?_⟩
      rw [hmore, List.cons_append]
    · exact ih _

/-- **The groups that are settled stay when more tuples come.** -/
theorem dropLast_pack_prefix (table : String) (budget : Int) (tuples more : List Bytes) :
    (pack table budget tuples).dropLast <+: (pack table budget (tuples ++ more)).dropLast := by
  cases tuples with
  | nil =>
    rw [pack_nil]
    exact List.nil_prefix
  | cons tuple rest =>
    obtain ⟨front, last, hcut, hmore⟩ :=
      exists_regroup_append table (fun size => decide (budget < size)) [tuple] rest
    have hne : regroup (fun size => decide (budget < size)) table last more ≠ [] :=
      regroup_ne_nil _ _ _
    rw [List.cons_append, ← regroup_singleton_eq_pack, ← regroup_singleton_eq_pack, hcut, hmore,
      List.dropLast_concat, List.dropLast_append_of_ne_nil hne]
    exact List.prefix_append _ _

end Sql.Insert

/-! ## Tables whose rows break off -/

namespace Dump.Inserts

open Sql.Insert (IsGreedy statement)
open Work

variable {pool : Pool} {budget : Int} {table : Value} {columns : List Column}

/-- Rows that break off in the buffers make the work of the table fail in the same way. -/
theorem Flushes.error_of_failure {session : Session} {result : Filling.Result}
    {ended : Except Failure TableStats × Session} {failure : Failure}
    (h : Flushes session result ended) (hfailure : result.failure = some failure) :
    ended.1 = .error failure := by
  have houtcome := h.outcome
  rw [hfailure] at houtcome
  cases hended : ended.1 with
  | ok stats =>
    rw [hended] at houtcome
    cases houtcome
  | error other =>
    rw [hended] at houtcome
    exact congrArg _ (Except.error.inj houtcome)

theorem failure_writeRows (hclean : pool.IsClean) (source : RowSource Failure) :
    (Filling.writeRows (.bytes budget) table columns source pool).failure = source.failure := by
  rw [Filling.writeRows, Filling.write_eq hclean _ _ Filling.tuple_ne_nil_of_mem]
  cases source.failure <;> rfl

/-- The pool comes back from every table, whether its rows break off or not. -/
theorem pool_writeRows (hclean : pool.IsClean) (source : RowSource Failure) :
    (Filling.writeRows (.bytes budget) table columns source pool).pool
      = (pool.lend 2).giveBack := by
  rw [Filling.writeRows, Filling.write_eq hclean _ _ Filling.tuple_ne_nil_of_mem]
  cases source.failure <;> rfl

/-- The statements of the groups that are settled, whatever comes after the rows. -/
theorem chunks_writeRows_broken (hclean : pool.IsClean) (rows : List Row) (failure : Failure) :
    (Filling.writeRows (.bytes budget) table columns ⟨rows, some failure⟩ pool).chunks
      = (Sql.Insert.pack table.toText budget
          (rows.map (Sql.tuple (columns.map Column.tag)))).dropLast.map
            (statement table.toText) := by
  rw [Filling.writeRows, Filling.write_eq hclean _ _ Filling.tuple_ne_nil_of_mem]
  rfl

/-- All statements, and the blank lines that end a table. -/
theorem chunks_writeRows_complete (hclean : pool.IsClean) (rows : List Row) :
    (Filling.writeRows (.bytes budget) table columns ⟨rows, none⟩ pool).chunks
      = (Sql.Insert.pack table.toText budget
          (rows.map (Sql.tuple (columns.map Column.tag)))).map (statement table.toText)
        ++ [Sql.Statement.endOfRows.bytes] := by
  rw [Filling.writeRows, Filling.write_eq hclean _ _ Filling.tuple_ne_nil_of_mem]
  rfl

/-- **What is flushed when rows break off is flushed first in any case, however they go on.** -/
theorem chunks_writeRows_prefix (hclean : pool.IsClean) (rows more : List Row)
    (failure : Failure) (ended : Option Failure) :
    (Filling.writeRows (.bytes budget) table columns ⟨rows, some failure⟩ pool).chunks
      <+: (Filling.writeRows (.bytes budget) table columns ⟨rows ++ more, ended⟩ pool).chunks := by
  have hsettled := (Sql.Insert.dropLast_pack_prefix table.toText budget
    (rows.map (Sql.tuple (columns.map Column.tag)))
    (more.map (Sql.tuple (columns.map Column.tag)))).map (statement table.toText)
  rw [← List.map_append] at hsettled
  rw [chunks_writeRows_broken hclean]
  cases ended with
  | some other =>
    rw [chunks_writeRows_broken hclean]
    exact hsettled
  | none =>
    -- a source that comes to its end flushes the last statement as well
    rw [chunks_writeRows_complete hclean]
    exact (hsettled.trans ((List.dropLast_prefix _).map _)).trans (List.prefix_append _ _)

/--
**A table whose rows break off leaves its settled statements and gives its buffers back.**

The pool is any that comes about, with loans that are still open. What is flushed are the
statements for the rows that came, without the last one and the blank lines. A longer source
that begins with the same rows flushes these chunks first, whether it comes to its end or not.
-/
theorem broken_rows_leave_settled_statements (budget : Int) (table : Value)
    (columns : List Column) (rows : List Row) (failure : Failure) (steps : List Pool.Step)
    (session : Session) :
    let before : Session := { session with pool := ({} : Pool).steps steps }
    let write source := start (writeTable (.bytes budget) table columns source) before
    let filled source := Filling.writeRows (.bytes budget) table columns source before.pool
    (∀ source, Flushes before (filled source) (write source))
    ∧ (write ⟨rows, some failure⟩).1 = .error failure
    ∧ (∃ groups : List (List Row),
        IsGreedy table.toText budget (Sql.tuple (columns.map Column.tag)) rows groups
        ∧ (groups = [] ↔ rows = [])
        ∧ let statements := groups.map fun group =>
            statement table.toText (group.map (Sql.tuple (columns.map Column.tag)))
          (filled ⟨rows, none⟩).chunks = statements ++ [Sql.Statement.endOfRows.bytes]
          ∧ (filled ⟨rows, some failure⟩).chunks = statements.dropLast)
    ∧ (∀ more ended,
        (filled ⟨rows, some failure⟩).chunks <+: (filled ⟨rows ++ more, ended⟩).chunks)
    ∧ (∀ source, before.pool.HasBack (filled source).pool)
    ∧ (filled ⟨rows, some failure⟩).pool = (filled ⟨rows, none⟩).pool := by
  intro before write filled
  have hclean : before.pool.IsClean := Pool.isClean_steps steps
  have hflushes : ∀ source, Flushes before (filled source) (write source) :=
    fun source => writeTable_flushes_of_isClean hclean _ _ _ source
  obtain ⟨groups, hgreedy, hmap⟩ := Sql.Insert.exists_isGreedy table.toText budget
    (Sql.tuple (columns.map Column.tag)) rows
  have hpool : ∀ source, (filled source).pool = (before.pool.lend 2).giveBack :=
    pool_writeRows hclean
  refine ⟨hflushes, ?_, ⟨groups, hgreedy, hgreedy.eq_nil_iff, ?_, ?_⟩,
    fun more ended => chunks_writeRows_prefix hclean rows more failure ended, fun source => ?_,
    (hpool _).trans (hpool _).symm⟩
  · exact (hflushes ⟨rows, some failure⟩).error_of_failure (failure_writeRows hclean _)
  · rw [chunks_writeRows_complete hclean, ← hmap, List.map_map]
    rfl
  · rw [chunks_writeRows_broken hclean, ← hmap, List.map_dropLast, List.map_map]
    rfl
  · rw [hpool source]
    exact hclean.hasBack_giveBack_lend_two

end Dump.Inserts

end DatabaseDump
