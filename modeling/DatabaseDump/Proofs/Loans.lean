import DatabaseDump.Pool.Block
import DatabaseDump.Proofs.Interruption
import Mathlib.Data.List.Induction
import Mathlib.Data.List.Forall2
import Mathlib.Order.Bounds.Basic

/-!
# Every buffer is accounted for

Loans are opened and given back in any number and order, and the buffers of one go on to the
next. What a pool holds can still be told from the steps alone: `openings` are the loans that are
open, by the steps that opened them, and `writtenTo` is what was written while one of them was
the innermost. No buffer knows more than that, whatever it held in earlier loans.

Two invariants carry the rest. `IsComplete` says that the buffers that are free or lent are those
that were made, each of them once. The other one is that the open loans are as the steps made
them (`IsLoan`), which holds because a step touches the innermost loan only and the free buffers
are empty. The number of buffers is the largest number ever lent at the same time, because a new
one is made only when all others are lent.
-/

namespace DatabaseDump.Pool

variable {pool : Pool} {list : List Step}

/-- The buffers that are lent. -/
def lent (pool : Pool) : List Buffer := pool.loans.flatten

/-- A new pool after steps. -/
def after (list : List Step) : Pool := ({} : Pool).steps list

theorem after_append_singleton (list : List Step) (s : Step) :
    after (list ++ [s]) = (after list).step s := by
  rw [after, steps, List.foldl_append]
  rfl

/-! ## Buffers that are taken -/

theorem length_takeMany (count : Nat) (pool : Pool) : (takeMany count pool).1.length = count := by
  rw [takeMany_eq, List.length_append, List.length_take, List.length_map, List.length_range']
  omega

theorem numbers_takeMany (count : Nat) (pool : Pool) :
    (takeMany count pool).1.map Buffer.number
      = (pool.free.take count).map Buffer.number
        ++ List.range' pool.made (count - pool.free.length) := by
  rw [takeMany_eq, List.map_append, List.map_map]
  exact congrArg _ (List.map_id' _)

/-- What is taken of a clean pool is empty. -/
theorem content_eq_nil_of_mem_takeMany (h : pool.IsClean) {count : Nat} {buffer : Buffer}
    (hbuffer : buffer ∈ (takeMany count pool).1) : buffer.content = [] := by
  rw [takeMany_eq] at hbuffer
  rcases List.mem_append.mp hbuffer with hfree | hnew
  · exact h buffer (List.mem_of_mem_take hfree)
  · obtain ⟨number, -, rfl⟩ := List.mem_map.mp hnew
    rfl

/-! ## What a step makes of a pool -/

/-- Writing keeps the buffers themselves. -/
theorem numbers_mapIdx_append (bytes : Nat → Bytes) (loan : List Buffer) :
    (loan.mapIdx fun i buffer => buffer.append (bytes i)).map Buffer.number
      = loan.map Buffer.number := by
  refine List.ext_getElem? fun i => ?_
  rw [List.getElem?_map, List.getElem?_map, List.getElem?_mapIdx, Option.map_map]
  rfl

theorem numbers_lent_write (bytes : Nat → Bytes) (pool : Pool) :
    (pool.write bytes).lent.map Buffer.number = pool.lent.map Buffer.number := by
  obtain ⟨free, loans, made⟩ := pool
  cases loans with
  | nil => rfl
  | cons inner outer =>
    show (_ ++ outer.flatten).map Buffer.number = (inner ++ outer.flatten).map Buffer.number
    rw [List.map_append, numbers_mapIdx_append, List.map_append]

/-! ## Free and lent -/

/-- The buffers that are free or lent are those that were made, each of them once. -/
def IsComplete (pool : Pool) : Prop :=
  ((pool.free ++ pool.lent).map Buffer.number).Perm (List.range pool.made)

theorem isComplete_new : ({} : Pool).IsComplete := List.Perm.nil

theorem IsComplete.nodup (h : pool.IsComplete) :
    ((pool.free ++ pool.lent).map Buffer.number).Nodup :=
  h.nodup_iff.mpr List.nodup_range

theorem IsComplete.made_eq (h : pool.IsComplete) :
    pool.made = pool.free.length + pool.lent.length := by
  have hlength := h.length_eq
  rw [List.length_map, List.length_append, List.length_range] at hlength
  exact hlength.symm

theorem IsComplete.lend (h : pool.IsComplete) (count : Nat) : (pool.lend count).IsComplete := by
  have hmade : List.range (pool.made + (count - pool.free.length))
      = List.range pool.made ++ List.range' pool.made (count - pool.free.length) := by
    rw [List.range_eq_range', List.range_eq_range', ← List.range'_append_1, Nat.zero_add]
  have hfree : pool.free.map Buffer.number
      = (pool.free.take count).map Buffer.number ++ (pool.free.drop count).map Buffer.number := by
    rw [← List.map_append, List.take_append_drop]
  rw [IsComplete, List.map_append, hfree] at h
  rw [IsComplete, lend_eq, List.map_append, lent, List.flatten_cons, List.map_append,
    numbers_takeMany, hmade]
  -- the free buffers that are taken move behind those that stay, and the new ones come last
  refine List.Perm.trans ?_ (h.append_right _)
  refine List.perm_iff_count.mpr fun number => ?_
  simp only [List.count_append, lent]
  omega

theorem IsComplete.write (h : pool.IsComplete) (bytes : Nat → Bytes) :
    (pool.write bytes).IsComplete := by
  rw [IsComplete, List.map_append, numbers_lent_write, write_eq, ← List.map_append]
  exact h

theorem IsComplete.giveBack (h : pool.IsComplete) : pool.giveBack.IsComplete := by
  have hlent : pool.lent = pool.loans.headD [] ++ pool.loans.tail.flatten := by
    cases hloans : pool.loans <;> simp [lent, hloans]
  have hcleared : ((pool.loans.headD []).map Buffer.cleared).map Buffer.number
      = (pool.loans.headD []).map Buffer.number := List.map_map
  rw [IsComplete, hlent] at h
  rw [IsComplete, giveBack_eq, lent]
  refine List.Perm.trans (List.perm_iff_count.mpr fun number => ?_) h
  simp only [List.map_append, List.map_reverse, hcleared, List.count_append, List.count_reverse]
  omega

theorem IsComplete.step (h : pool.IsComplete) (s : Step) : (pool.step s).IsComplete := by
  cases s with
  | lend count => exact h.lend count
  | write bytes => exact h.write bytes
  | giveBack => exact h.giveBack

theorem isComplete_after (list : List Step) : (after list).IsComplete := by
  induction list using List.reverseRecOn with
  | nil => exact isComplete_new
  | append_singleton list s ih =>
    rw [after_append_singleton]
    exact ih.step s

/-! ## How many buffers are made -/

/-- New buffers are made only when all others are lent. -/
theorem IsComplete.made_step (h : pool.IsComplete) (s : Step) :
    (pool.step s).made = max (pool.step s).lent.length pool.made := by
  have hmade := h.made_eq
  have hafter := (h.step s).made_eq
  cases s with
  | lend count =>
    have hlent : (pool.lend count).lent.length = count + pool.lent.length := by
      rw [lend_eq, lent, List.flatten_cons, List.length_append, length_takeMany, lent]
    have hnew : (pool.lend count).made = pool.made + (count - pool.free.length) := by
      rw [lend_eq]
    rw [Pool.step, hlent, hnew]
    omega
  | write bytes =>
    have hsame : (pool.step (.write bytes)).made = pool.made := by rw [Pool.step, write_eq]
    omega
  | giveBack =>
    have hsame : (pool.step .giveBack).made = pool.made := by rw [Pool.step, giveBack_eq]
    omega

/-- The numbers of buffers that were lent at some time. -/
def lentCounts (list : List Step) : Set Nat :=
  {count | ∃ earlier, earlier <+: list ∧ (after earlier).lent.length = count}

theorem lentCounts_append_singleton (list : List Step) (s : Step) :
    lentCounts (list ++ [s])
      = insert (after (list ++ [s])).lent.length (lentCounts list) := by
  ext count
  simp only [lentCounts, Set.mem_insert_iff, Set.mem_ofPred_eq, List.prefix_concat_iff]
  constructor
  · rintro ⟨earlier, rfl | hearlier, hcount⟩
    · exact .inl hcount.symm
    · exact .inr ⟨earlier, hearlier, hcount⟩
  · rintro (hcount | ⟨earlier, hearlier, hcount⟩)
    · exact ⟨_, .inl rfl, hcount.symm⟩
    · exact ⟨earlier, .inr hearlier, hcount⟩

/-- **As many buffers are made as were ever lent at the same time.** -/
theorem isGreatest_made (list : List Step) : IsGreatest (lentCounts list) (after list).made := by
  induction list using List.reverseRecOn with
  | nil =>
    refine ⟨⟨[], List.prefix_rfl, rfl⟩, ?_⟩
    rintro count ⟨earlier, hearlier, rfl⟩
    rw [List.prefix_nil.mp hearlier]
    exact le_rfl
  | append_singleton list s ih =>
    rw [lentCounts_append_singleton, after_append_singleton, (isComplete_after list).made_step]
    exact ih.insert _

/-! ## Loans as the steps made them -/

/-- The loans that are open after one more step, each by the place of the step that opened it. -/
def opened (openings : List Nat) : Step × Nat → List Nat
  | (.lend _, place) => place :: openings
  | (.write _, _) => openings
  | (.giveBack, _) => openings.tail

/-- The loans that are open after steps, the innermost in front. -/
def openings (list : List Step) : List Nat := list.zipIdx.foldl opened []

theorem openings_append_singleton (list : List Step) (s : Step) :
    openings (list ++ [s]) = opened (openings list) (s, list.length) := by
  rw [openings, List.zipIdx_append, List.foldl_append, Nat.zero_add]
  rfl

/-- What a step writes to a place of a loan, if that is the innermost one. -/
def writtenBy (openings : List Nat) (opening place : Nat) : Step → Bytes
  | .write bytes => if openings.head? = some opening then bytes place else []
  | .lend _ | .giveBack => []

/-- What was written to a place of a loan, by all steps that found it to be the innermost one. -/
def writtenTo (list : List Step) (opening place : Nat) : Bytes :=
  list.zipIdx.flatMap fun entry =>
    writtenBy (openings (list.take entry.2)) opening place entry.1

theorem writtenTo_append_singleton (list : List Step) (s : Step) (opening place : Nat) :
    writtenTo (list ++ [s]) opening place
      = writtenTo list opening place ++ writtenBy (openings list) opening place s := by
  have hbefore : list.zipIdx.flatMap (fun entry =>
        writtenBy (openings ((list ++ [s]).take entry.2)) opening place entry.1)
      = writtenTo list opening place := by
    refine List.flatMap_congr fun entry hentry => ?_
    have hlt := (List.mem_zipIdx hentry).2.1
    rw [List.take_append_of_le_length (by omega)]
  rw [writtenTo, List.zipIdx_append, List.flatMap_append, hbefore]
  simp

/-- What is written to an inner loan is not counted to the one around it. -/
example : writtenTo [.lend 1, .write fun _ => [1], .lend 1, .write fun _ => [2], .giveBack,
    .write fun _ => [3]] 0 0 = [1, 3] := by decide

/-- A loan is as the steps made it, with the buffers that it was opened with. -/
structure IsLoan (list : List Step) (opening : Nat) (loan : List Buffer) : Prop where
  count : list[opening]? = some (.lend loan.length)
  numbers : loan.map Buffer.number
    = ((after (list.take (opening + 1))).loans.headD []).map Buffer.number
  content : ∀ place buffer, loan[place]? = some buffer →
    buffer.content = writtenTo list opening place

/-- Loans are opened in order, the innermost last. -/
theorem pairwise_openings (list : List Step) :
    (openings list).Pairwise (· > ·) ∧ ∀ opening ∈ openings list, opening < list.length := by
  induction list using List.reverseRecOn with
  | nil => exact ⟨List.Pairwise.nil, by simp [openings]⟩
  | append_singleton list s ih =>
    obtain ⟨hpairwise, hlt⟩ := ih
    have hlater : ∀ opening ∈ openings list, opening < (list ++ [s]).length := by
      intro opening hopening
      rw [List.length_append]
      exact Nat.lt_add_right _ (hlt opening hopening)
    rw [openings_append_singleton]
    cases s with
    | lend count =>
      refine ⟨List.pairwise_cons.mpr ⟨hlt, hpairwise⟩, List.forall_mem_cons.mpr ⟨?_, hlater⟩⟩
      simp
    | write bytes => exact ⟨hpairwise, hlater⟩
    | giveBack =>
      exact ⟨hpairwise.tail, fun opening hopening => hlater opening (List.mem_of_mem_tail hopening)⟩

theorem writtenBy_of_ne {openings : List Nat} {opening : Nat}
    (h : openings.head? ≠ some opening) (place : Nat) (s : Step) :
    writtenBy openings opening place s = [] := by
  cases s with
  | lend count => rfl
  | write bytes => exact if_neg h
  | giveBack => rfl

/-- Nothing was written to a loan that is still to be opened. -/
theorem writtenTo_length (list : List Step) (place : Nat) :
    writtenTo list list.length place = [] := by
  refine List.flatMap_eq_nil_iff.mpr fun entry hentry => writtenBy_of_ne (fun hhead => ?_) place _
  -- the loans that a step finds open were opened before it
  have hlt := (pairwise_openings (list.take entry.2)).2 _ (List.mem_of_head? hhead)
  rw [List.length_take] at hlt
  omega

section IsLoan

variable {opening : Nat} {loan written : List Buffer} {s : Step}

/-- After one more step a loan still has its buffers, if they hold what was written to them. -/
theorem IsLoan.of_content (h : IsLoan list opening loan)
    (hnumbers : written.map Buffer.number = loan.map Buffer.number)
    (hcontent : ∀ place buffer, written[place]? = some buffer →
      buffer.content = writtenTo (list ++ [s]) opening place) :
    IsLoan (list ++ [s]) opening written := by
  have hlt : opening < list.length := (List.getElem?_eq_some_iff.mp h.count).1
  have hlength : written.length = loan.length := by
    rw [← List.length_map (f := Buffer.number), hnumbers, List.length_map]
  refine ⟨?_, ?_, hcontent⟩
  · rw [List.getElem?_append_left hlt, h.count, hlength]
  · rw [hnumbers, h.numbers, List.take_append_of_le_length hlt]

/-- A step that does not write to a loan leaves it as it is. -/
theorem IsLoan.append_singleton (h : IsLoan list opening loan)
    (hs : ∀ place, writtenBy (openings list) opening place s = []) :
    IsLoan (list ++ [s]) opening loan := by
  refine h.of_content rfl fun place buffer hbuffer => ?_
  rw [writtenTo_append_singleton, hs, List.append_nil]
  exact h.content place buffer hbuffer

/-- What is written to the innermost loan comes behind what it holds. -/
theorem IsLoan.append_write (h : IsLoan list opening loan)
    (hinner : (openings list).head? = some opening) (bytes : Nat → Bytes) :
    IsLoan (list ++ [.write bytes]) opening
      (loan.mapIdx fun i buffer => buffer.append (bytes i)) := by
  refine h.of_content (numbers_mapIdx_append bytes loan) fun place buffer hbuffer => ?_
  rw [List.getElem?_mapIdx] at hbuffer
  obtain ⟨before, hbefore, rfl⟩ := Option.map_eq_some_iff.mp hbuffer
  rw [writtenTo_append_singleton, writtenBy, if_pos hinner, ← h.content place before hbefore]
  rfl

/-- A loan that is just opened has as many buffers as asked for, and they are empty. -/
theorem isLoan_takeMany (list : List Step) (count : Nat) :
    IsLoan (list ++ [.lend count]) list.length (takeMany count (after list)).1 where
  count := by rw [List.getElem?_concat_length, length_takeMany]
  numbers := by
    rw [List.take_of_length_le (by simp), after_append_singleton, step, lend_eq]
    rfl
  content := by
    intro place buffer hbuffer
    rw [writtenTo_append_singleton, writtenTo_length]
    exact content_eq_nil_of_mem_takeMany (isClean_steps list) (List.mem_of_getElem? hbuffer)

/-- Writing touches the innermost loan and leaves the others as they are. -/
theorem isLoan_write {loans : List (List Buffer)}
    (h : List.Forall₂ (IsLoan list) (openings list) loans) (bytes : Nat → Bytes) :
    List.Forall₂ (IsLoan (list ++ [.write bytes])) (openings list)
      (loans.modifyHead (List.mapIdx fun i buffer => buffer.append (bytes i))) := by
  have hpairwise := (pairwise_openings list).1
  generalize hopenings : openings list = places at h hpairwise ⊢
  cases h with
  | nil => exact .nil
  | @cons inner loan outer loans hinner houter =>
    have hhead : (openings list).head? = some inner := by rw [hopenings]; rfl
    -- the other loans were opened by other steps
    have hothers : ∀ opening ∈ outer, (openings list).head? ≠ some opening := by
      intro opening hopening hsame
      rw [hhead, Option.some.injEq] at hsame
      have hlt : opening < inner := List.rel_of_pairwise_cons hpairwise hopening
      exact hlt.ne' hsame
    refine .cons (hinner.append_write hhead bytes) ?_
    exact ((List.forall₂_and_left _ _).mpr ⟨hothers, houter⟩).imp fun opening loan hother =>
      hother.2.append_singleton fun place => writtenBy_of_ne hother.1 place _

end IsLoan

/-- **The open loans are as the steps made them.** -/
theorem isLoan_after (list : List Step) :
    List.Forall₂ (IsLoan list) (openings list) (after list).loans := by
  induction list using List.reverseRecOn with
  | nil => exact .nil
  | append_singleton list s ih =>
    rw [openings_append_singleton, after_append_singleton]
    cases s with
    | lend count =>
      rw [step, lend_eq]
      exact .cons (isLoan_takeMany list count)
        (ih.imp fun opening loan h => h.append_singleton fun _ => rfl)
    | write bytes =>
      rw [step, write_eq]
      exact isLoan_write ih bytes
    | giveBack =>
      rw [step, giveBack_eq]
      show List.Forall₂ _ (openings list).tail (after list).loans.tail
      rw [← List.drop_one, ← List.drop_one]
      exact (List.forall₂_drop 1 ih).imp fun opening loan h => h.append_singleton fun _ => rfl

/-! ## Blocks -/

/-- A block does its steps, and how it is left does not depend on the pool. -/
theorem Block.run_eq (block : Block) (pool : Pool) :
    block.run pool = (block.failure, pool.steps block.steps) := by
  induction block generalizing pool with
  | finish => rfl
  | fail failure => rfl
  | write bytes rest ih => exact ih (pool.write bytes)
  | lend count inner caught rest ihinner ihrest =>
    -- the inner block gives its buffers back before anything else is done
    have hback (later : List Step) :
        pool.steps (.lend count :: inner.steps ++ .giveBack :: later)
          = ((pool.lend count).steps inner.steps).giveBack.steps later := by
      rw [Pool.steps, List.foldl_append]
      rfl
    rw [run, ihinner, failure, Block.steps, hback]
    dsimp only
    by_cases hfails : goesOn caught inner.failure = true
    · rw [if_pos hfails, if_pos hfails, if_pos hfails]
      rfl
    · rw [if_neg hfails, if_neg hfails, if_neg hfails]
      exact ihrest _

/-- **All loans that a block opens are given back when it is left, also if it fails.** -/
theorem openings_append_steps (list : List Step) (block : Block) :
    openings (list ++ block.steps) = openings list := by
  induction block generalizing list with
  | finish => rw [Block.steps, List.append_nil]
  | fail failure => rw [Block.steps, List.append_nil]
  | write bytes rest ih =>
    rw [Block.steps, List.append_cons, ih, openings_append_singleton]
    rfl
  | lend count inner caught rest ihinner ihrest =>
    have hback : openings (list ++ [.lend count] ++ inner.steps ++ [.giveBack])
        = openings list := by
      rw [openings_append_singleton, ihinner, openings_append_singleton]
      rfl
    have hsteps : list ++ (Block.lend count inner caught rest).steps
        = list ++ [.lend count] ++ inner.steps ++ [.giveBack]
          ++ if Block.goesOn caught inner.failure then [] else rest.steps := by
      simp [Block.steps]
    rw [hsteps]
    split
    · rw [List.append_nil, hback]
    · rw [ihrest, hback]

/-! ## The inventory of a pool -/

/-- Where the buffers of a new pool are after steps, and what they hold. -/
structure Inventory (list : List Step) : Prop where
  /-- No buffer is both free and lent, or lent twice. -/
  apart : (((after list).free ++ (after list).lent).map Buffer.number).Nodup
  clean : ∀ buffer ∈ (after list).free, buffer.content = []
  loans : List.Forall₂ (IsLoan list) (openings list) (after list).loans
  most : IsGreatest (lentCounts list) ((after list).free.length + (after list).lent.length)

/--
**Every buffer is accounted for after any steps, and blocks are nothing but steps.**

The steps are in any order; one that finds no loan changes nothing. A block does its steps up to
where it comes to its end or fails, and when it has been left, the loans that are open are those
that were open before it.
-/
theorem buffers_are_accounted_for (list : List Step) :
    Inventory list
    ∧ ∀ block : Block, block.run (after list) = (block.failure, after (list ++ block.steps))
      ∧ openings (list ++ block.steps) = openings list := by
  have hcomplete := isComplete_after list
  refine ⟨⟨hcomplete.nodup, isClean_steps list, isLoan_after list, ?_⟩, fun block => ⟨?_, ?_⟩⟩
  · rw [← hcomplete.made_eq]
    exact isGreatest_made list
  · rw [Block.run_eq, after, after, steps, steps, steps, List.foldl_append]
  · exact openings_append_steps list block

end DatabaseDump.Pool
